import BuildMatrix.Proofs.Generation.Steps
import BuildMatrix.Proofs.Json.Canonical

namespace BuildMatrix

namespace Json

inductive Place where
  | outside
  | inside
  | escaped
deriving DecidableEq

def Place.next : Place → Char → Place
  | .outside, c => if c = '\x22' then .inside else .outside
  | .inside, c => if c = '\x22' then .outside else if c = '\\' then .escaped else .inside
  | .escaped, _ => .inside

-- A text without the spaces and newlines that stand outside of its literals.
def squeezed : Place → List Char → List Char
  | _, [] => []
  | place, c :: rest =>
      if place = .outside ∧ (c = ' ' ∨ c = '\n') then squeezed place rest else c :: squeezed (place.next c) rest

variable {layout : Layout} {chars core others : List Char} {c : Char}

def Ordinary (c : Char) : Prop := 0x20 ≤ c.toNat ∧ c ≠ '\x22' ∧ c ≠ '\\'

def Solid (c : Char) : Prop := 0x20 < c.toNat ∧ c ≠ '\x22'

def AllSolid (chars : List Char) : Prop := ∀ c ∈ chars, Solid c

instance (c : Char) : Decidable (Solid c) := @instDecidableAnd _ _ inferInstance inferInstance
instance (chars : List Char) : Decidable (AllSolid chars) := List.decidableBAll _ _

theorem solid_least (least : '0' ≤ c) : Solid c := by
  have code : 0x30 ≤ c.toNat := least
  refine ⟨by omega, ?_⟩
  rintro rfl
  exact absurd least (by decide)

theorem ordinary_kept (ordinary : ∀ c ∈ chars, Ordinary c) (rest : List Char) :
    squeezed .inside (chars ++ rest) = chars ++ squeezed .inside rest := by
  induction chars with
  | nil => rfl
  | cons c others ih =>
      obtain ⟨⟨_, quote, slash⟩, later⟩ := List.forall_mem_cons.mp ordinary
      simp [squeezed, Place.next, quote, slash, ih later]

theorem hexValue_ordinary {digit : Nat} (read : hexValue? c = some digit) : Ordinary c := by
  have least : '0' ≤ c := by
    unfold hexValue? at read
    split_ifs at read with decimal lower upper
    · exact decimal.1
    · exact le_trans (by decide) lower.1
    · exact le_trans (by decide) upper.1
  obtain ⟨visible, quote⟩ := solid_least least
  refine ⟨visible.le, quote, ?_⟩
  rintro rfl
  cases read

theorem fourDigits_ordinary {code : Nat} (digits : FourDigits chars code) : ∀ c ∈ chars, Ordinary c := by
  cases digits with
  | digits a b c d =>
      simp only [List.forall_mem_cons]
      exact ⟨hexValue_ordinary a, hexValue_ordinary b, hexValue_ordinary c, hexValue_ordinary d, by simp⟩

theorem spelled_kept (spelled : SpelledChar chars c) (rest : List Char) :
    squeezed .inside (chars ++ rest) = chars ++ squeezed .inside rest := by
  have behind : ∀ mark others, squeezed .inside ('\\' :: mark :: others) = '\\' :: mark :: squeezed .inside others :=
    fun _ _ => rfl
  cases spelled with
  | plain visible quote slash => exact ordinary_kept (List.forall_mem_singleton.mpr ⟨visible, quote, slash⟩) rest
  | short _ => exact behind _ _
  | unit digits _ =>
      rw [List.cons_append, List.cons_append, behind, ordinary_kept (fourDigits_ordinary digits)]
      rfl
  | pair digits others _ _ _ _ =>
      simp only [List.cons_append, List.append_assoc, behind, ordinary_kept (fourDigits_ordinary digits),
        ordinary_kept (fourDigits_ordinary others)]

theorem spelled_visible (spelled : SpelledChar chars c) : ∀ d ∈ chars, 0x20 ≤ d.toNat := by
  have digits_visible : ∀ {digits : List Char} {code : Nat}, FourDigits digits code → ∀ d ∈ digits, 0x20 ≤ d.toNat :=
    fun digits d present => (fourDigits_ordinary digits d present).1
  cases spelled with
  | plain visible _ _ => exact List.forall_mem_singleton.mpr visible
  | @short mark _ listed =>
      have marks : ∀ row ∈ shortEscapes, 0x20 ≤ row.1.toNat := by decide
      simp only [List.forall_mem_cons]
      exact ⟨by decide, marks _ listed, by simp⟩
  | unit digits _ =>
      simp only [List.forall_mem_cons]
      exact ⟨by decide, by decide, digits_visible digits⟩
  | pair digits others _ _ _ _ =>
      simp only [List.forall_mem_cons, List.forall_mem_append]
      exact ⟨by decide, by decide, digits_visible digits, by decide, by decide, digits_visible others⟩

theorem quotes_kept {string : String} (quotes : Quotes chars string) (rest : List Char) :
    squeezed .outside (chars ++ rest) = chars ++ squeezed .outside rest := by
  obtain ⟨pieces, spelled, rfl⟩ := quotes
  have body : ∀ {pieces : List (List Char)} {letters : List Char}, List.Forall₂ SpelledChar pieces letters →
      ∀ rest, squeezed .inside (pieces.flatten ++ rest) = pieces.flatten ++ squeezed .inside rest := by
    intro pieces letters spelled
    induction spelled with
    | nil => exact fun _ => rfl
    | cons first _ ih =>
        intro rest
        rw [List.flatten_cons, List.append_assoc, spelled_kept first, ih, List.append_assoc]
  have closing : squeezed .inside ('\x22' :: rest) = '\x22' :: squeezed .outside rest := rfl
  have opening : ∀ rest, squeezed .outside ('\x22' :: rest) = '\x22' :: squeezed .inside rest := fun _ => rfl
  rw [List.cons_append, List.append_assoc, List.singleton_append, opening, body spelled, closing]
  simp

theorem quotes_visible {string : String} (quotes : Quotes chars string) : ∀ d ∈ chars, 0x20 ≤ d.toNat := by
  obtain ⟨pieces, spelled, rfl⟩ := quotes
  have body : ∀ d ∈ pieces.flatten, 0x20 ≤ d.toNat := by
    intro d present
    obtain ⟨piece, held, inside⟩ := List.mem_flatten.mp present
    obtain ⟨_, _, spells⟩ := related_left spelled held
    exact spelled_visible spells d inside
  have quote : 0x20 ≤ '\x22'.toNat := by decide
  exact List.forall_mem_cons.mpr ⟨quote, List.forall_mem_append.mpr ⟨body, List.forall_mem_singleton.mpr quote⟩⟩

-- A text with the blanks that a layout puts between its parts, and without them.
inductive Laid (layout : Layout) : List Char → List Char → Prop where
  | nothing : Laid layout [] []
  | space {chars core : List Char} : Laid layout chars core → Laid layout (' ' :: chars) core
  | newline {chars core : List Char} : layout ≠ .line → Laid layout chars core → Laid layout ('\n' :: chars) core
  | solid {c : Char} {chars core : List Char} : Solid c → Laid layout chars core → Laid layout (c :: chars) (c :: core)
  | literal {quoted : List Char} {string : String} {chars core : List Char} : Quotes quoted string →
      Laid layout chars core → Laid layout (quoted ++ chars) (quoted ++ core)

theorem laid_squeezed (laid : Laid layout chars core) (rest : List Char) :
    squeezed .outside (chars ++ rest) = core ++ squeezed .outside rest := by
  induction laid with
  | nothing => rfl
  | space _ ih => simp [squeezed, ih]
  | newline _ _ ih => simp [squeezed, ih]
  | @solid c _ _ solid _ ih =>
      have apart : c ≠ ' ' ∧ c ≠ '\n' := by
        constructor
        · rintro rfl
          exact absurd solid (by decide)
        · rintro rfl
          exact absurd solid (by decide)
      simp [squeezed, Place.next, apart, solid.2, ih]
  | literal quotes _ ih => rw [List.append_assoc, quotes_kept quotes, ih, List.append_assoc]

example : squeezed .outside "[\"a, \\\" b\", 1 ]\n".toList = "[\"a, \\\" b\",1]".toList := by decide

theorem laid_controls (laid : Laid layout chars core) :
    ∀ c ∈ chars, c.toNat < 0x20 → c = '\n' ∧ layout ≠ .line := by
  induction laid with
  | nothing => simp
  | space _ ih => exact List.forall_mem_cons.mpr ⟨fun low => absurd low (by decide), ih⟩
  | newline breaks _ ih => exact List.forall_mem_cons.mpr ⟨fun _ => ⟨rfl, breaks⟩, ih⟩
  | solid solid _ ih => exact List.forall_mem_cons.mpr ⟨fun low => absurd low solid.1.le.not_gt, ih⟩
  | literal quotes _ ih =>
      refine List.forall_mem_append.mpr ⟨fun c present low => ?_, ih⟩
      have visible := quotes_visible quotes c present
      omega

theorem laid_append {more rest : List Char} (first : Laid layout chars core) (second : Laid layout more rest) :
    Laid layout (chars ++ more) (core ++ rest) := by
  induction first with
  | nothing => exact second
  | space _ ih => exact .space ih
  | newline breaks _ ih => exact .newline breaks ih
  | solid solid _ ih => exact .solid solid ih
  | literal quotes _ ih =>
      rw [List.append_assoc, List.append_assoc]
      exact .literal quotes ih

theorem laid_solid (solid : AllSolid chars) : Laid layout chars chars := by
  induction chars with
  | nil => exact .nothing
  | cons c rest ih =>
      obtain ⟨first, others⟩ := List.forall_mem_cons.mp solid
      exact .solid first (ih others)

theorem laid_numeric (numeric : Numeric chars) : Laid layout chars chars := by
  refine laid_solid fun c present => ?_
  have signs : AllSolid ['-', '+', '.', 'e'] := by decide
  rcases Bool.or_eq_true_iff.mp (numeric.2 c present) with digit | sign
  · simp only [isDigit, Bool.and_eq_true, decide_eq_true_eq] at digit
    exact solid_least digit.1
  · exact signs c (List.contains_iff_mem.mp sign)

theorem laid_break (layout : Layout) (depth : Nat) : Laid layout (layout.breakAt depth) [] := by
  cases layout with
  | line => exact .nothing
  | indented width =>
      refine .newline (by simp) ?_
      generalize width * depth = count
      induction count with
      | zero => exact .nothing
      | succ count ih => exact .space ih

theorem laid_separator (layout : Layout) (depth : Nat) : Laid layout (layout.separator depth) [','] := by
  have comma : Solid ',' := by decide
  cases layout with
  | line => exact .solid comma (.space .nothing)
  | indented width => exact .solid comma (laid_break (.indented width) depth)

theorem laid_text (string : String) : Laid layout (writeText string) (writeText string) := by
  have literal : Laid layout _ _ := .literal (text_quotes string) .nothing
  rwa [List.append_nil] at literal

theorem laid_row (key : String) (value : Laid layout chars core) :
    Laid layout (writeText key ++ ':' :: ' ' :: chars) (writeText key ++ ':' :: core) :=
  .literal (text_quotes key) (.solid (by decide) (.space value))

theorem laid_enclosed {opening closing : Char} (depth : Nat) (first : Solid opening) (last : Solid closing)
    (body : Laid layout chars core) :
    Laid layout (opening :: (layout.breakAt (depth + 1) ++ chars ++ layout.breakAt depth ++ [closing]))
      (opening :: (core ++ [closing])) := by
  have broken := laid_append (laid_append (laid_break layout (depth + 1)) body) (laid_break layout depth)
  rw [List.nil_append, List.append_nil] at broken
  exact .solid first (laid_append broken (.solid last .nothing))

-- The text of a value has the same parts in every layout and at every depth. The induction
-- is the writer's own; nothing is asked of the depth that it has come to.
theorem write_laid (value : Value) : ∃ core, ∀ layout depth, Laid layout (write layout depth value) core := by
  have words : AllSolid ['n', 'u', 'l', 'l'] ∧ AllSolid ['t', 'r', 'u', 'e'] ∧ AllSolid ['f', 'a', 'l', 's', 'e'] := by
    decide
  have brackets : Solid '[' ∧ Solid ']' := by decide
  have braces : Solid '\x7b' ∧ Solid '\x7d' := by decide
  have written : (∀ (_ : Nat) value, ∃ core, ∀ layout depth, Laid layout (write layout depth value) core) ∧
      (∀ (_ : Nat) rows, ∃ core, ∀ layout depth, Laid layout (writeRows layout depth rows) core) ∧
      ∀ (_ : Nat) items, ∃ core, ∀ layout depth, Laid layout (writeItems layout depth items) core := by
    refine write.mutual_induct _ _ _ ?null ?yes ?no ?int ?real ?text ?noItems ?items ?noRows ?rows ?lastItem ?nextItem
      ?lastRow ?nextRow
    case null => exact fun _ => ⟨_, fun _ _ => laid_solid words.1⟩
    case yes => exact fun _ => ⟨_, fun _ _ => laid_solid words.2.1⟩
    case no =>
      intro _ flag unset
      cases flag with
      | true => exact absurd rfl unset
      | false => exact ⟨_, fun _ _ => laid_solid words.2.2⟩
    case int => exact fun _ number => ⟨_, fun _ _ => laid_numeric (integer_numeric number)⟩
    case real => exact fun _ number => ⟨_, fun _ _ => laid_numeric (decimal_numeric number)⟩
    case text => exact fun _ string => ⟨_, fun _ _ => laid_text string⟩
    case noItems => exact fun _ => ⟨_, fun _ _ => .solid brackets.1 (.solid brackets.2 .nothing)⟩
    case noRows => exact fun _ => ⟨_, fun _ _ => .solid braces.1 (.solid braces.2 .nothing)⟩
    case items =>
      rintro _ item rest ⟨head, first⟩ ⟨tail, others⟩
      refine ⟨'[' :: (head ++ tail ++ [']']), fun layout depth => ?_⟩
      have laid := laid_enclosed depth brackets.1 brackets.2
        (laid_append (first layout (depth + 1)) (others layout (depth + 1)))
      rw [write]
      simpa using laid
    case rows =>
      rintro _ key value rest ⟨head, first⟩ ⟨tail, others⟩
      refine ⟨'\x7b' :: (writeText key ++ ':' :: head ++ tail ++ ['\x7d']), fun layout depth => ?_⟩
      have laid := laid_enclosed depth braces.1 braces.2
        (laid_append (laid_row key (first layout (depth + 1))) (others layout (depth + 1)))
      rw [write]
      simpa using laid
    case lastItem | lastRow => exact fun _ => ⟨[], fun _ _ => .nothing⟩
    case nextItem =>
      rintro _ item rest ⟨head, first⟩ ⟨tail, others⟩
      exact ⟨_, fun layout depth =>
        laid_append (laid_append (laid_separator layout depth) (first layout depth)) (others layout depth)⟩
    case nextRow =>
      rintro _ key value rest ⟨head, first⟩ ⟨tail, others⟩
      refine ⟨',' :: (writeText key ++ ':' :: head ++ tail), fun layout depth => ?_⟩
      have laid := laid_append (laid_append (laid_separator layout depth) (laid_row key (first layout depth)))
        (others layout depth)
      rw [writeRows]
      simpa using laid
  exact written.1 0 value

-- Documents differ between layouts in nothing but blanks outside of literals, and the
-- only control character in them is the newline: on one line it is the last character.
theorem document_laid (value : Value) : (∃ line, (document .line value).toList = line ++ ['\n'] ∧ '\n' ∉ line) ∧
    (∀ layout, ∀ c ∈ (document layout value).toList, c.toNat < 0x20 → c = '\n') ∧
    ∀ layout other, squeezed .outside (document layout value).toList =
      squeezed .outside (document other value).toList := by
  obtain ⟨core, laid⟩ := write_laid value.sortKeys
  have text : ∀ layout, (document layout value).toList = write layout 0 value.sortKeys ++ ['\n'] :=
    fun layout => by rw [document, String.toList_ofList]
  refine ⟨⟨write .line 0 value.sortKeys, text .line, ?_⟩, ?_, ?_⟩
  · intro present
    exact (laid_controls (laid .line 0) '\n' present (by decide)).2 rfl
  · intro layout
    rw [text]
    exact List.forall_mem_append.mpr ⟨fun c present low => (laid_controls (laid layout 0) c present low).1, by simp⟩
  · intro layout other
    rw [text, text, laid_squeezed (laid layout 0), laid_squeezed (laid other 0)]

end Json

namespace Pipeline

-- Whatever strings there are in a pipeline, its descriptor is one line or many lines of the
-- same text.
theorem descriptor_layouts (pipeline : Pipeline) (scripted : ∀ job ∈ pipeline.jobs, job.Scripted) :
    ∃ text : Json.Layout → String, (∀ layout, pipeline.descriptor layout = .ok (text layout)) ∧
      (∃ line, (text .line).toList = line ++ ['\n'] ∧ '\n' ∉ line) ∧
      (∀ layout, ∀ c ∈ (text layout).toList, c.toNat < 0x20 → c = '\n') ∧
      ∀ layout other, Json.squeezed .outside (text layout).toList = Json.squeezed .outside (text other).toList := by
  obtain ⟨_, written⟩ := descriptor_scripted scripted .line
  obtain ⟨record, recorded, _⟩ := bind_ok.mp written
  refine ⟨fun layout => Json.document layout record, fun layout => ?_, Json.document_laid record⟩
  rw [descriptor, recorded]
  rfl

def tangled : Pipeline where
  jobs := [{
    name := "two\nlines"
    kind := "run-only"
    os := .linux
    arch := "amd64"
    timelimit := .real ⟨false, 15, 1⟩
    run := [Command.toValue [.text "say \"a :  b\"\t", .output [.text "\x07"]]]
    environment := .ofList [("\r", " \\ ")] }]
  edges := [⟨"two\nlines", "", []⟩]

theorem tangled_layouts : (∀ job ∈ tangled.jobs, job.Scripted) ∧
    ∃ text : Json.Layout → String, (∀ layout, tangled.descriptor layout = .ok (text layout)) ∧
      (∃ line, (text .line).toList = line ++ ['\n'] ∧ '\n' ∉ line) ∧
      (∀ layout, ∀ c ∈ (text layout).toList, c.toNat < 0x20 → c = '\n') ∧
      ∀ layout other, Json.squeezed .outside (text layout).toList = Json.squeezed .outside (text other).toList := by
  have scripted : ∀ job ∈ tangled.jobs, job.Scripted :=
    List.forall_mem_singleton.mpr ⟨commands_values [_], commands_values []⟩
  exact ⟨scripted, descriptor_layouts tangled scripted⟩

end Pipeline
end BuildMatrix
