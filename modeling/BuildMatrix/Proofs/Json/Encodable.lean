import BuildMatrix.Console
import BuildMatrix.Pipeline.Descriptor
import BuildMatrix.Proofs.Json.Canonical

namespace BuildMatrix

namespace Value

-- Every string in a value, the keys of its tables among them.
mutual
def strings : Value → List String
  | .text string => [string]
  | .list items => stringsItems items
  | .table rows => stringsRows rows
  | _ => []
def stringsItems : List Value → List String
  | [] => []
  | item :: rest => strings item ++ stringsItems rest
def stringsRows : List (String × Value) → List String
  | [] => []
  | (key, value) :: rest => key :: (strings value ++ stringsRows rest)
end

theorem stringsRows_flatMap (rows : List (String × Value)) :
    stringsRows rows = rows.flatMap fun row => row.1 :: row.2.strings := by
  induction rows with
  | nil => rfl
  | cons row rest ih =>
      rw [stringsRows, ih, List.flatMap_cons]
      rfl

theorem sortKeys_strings (value : Value) : value.sortKeys.strings.Perm value.strings := by
  induction value using sortKeys.induct
    (motive_2 := fun rows => (stringsRows (sortKeysRows rows)).Perm (stringsRows rows))
    (motive_3 := fun items => (stringsItems (sortKeysItems items)).Perm (stringsItems items)) with
  | case1 items ih => exact ih
  | case2 rows ih =>
      rw [sortKeys, strings, strings, stringsRows_flatMap]
      refine ((List.mergeSort_perm _ _).flatMap_right _).trans ?_
      rw [← stringsRows_flatMap]
      exact ih
  | case3 value list table => rw [sortKeys.eq_3 value list table]
  | case4 => exact .refl _
  | case5 item rest first others => exact first.append others
  | case6 => exact .refl _
  | case7 key value rest first others => exact (first.append others).cons key

end Value

namespace Json

variable {encoding : Char → Bool} {chars : List Char}

-- Syntax, numbers and escapes are all in ASCII, which every encoding in use carries.
def CarriesAscii (encoding : Char → Bool) : Prop := ∀ c : Char, c.toNat < 0x80 → encoding c = true

def AllAscii (chars : List Char) : Prop := ∀ c ∈ chars, c.toNat < 0x80

instance (chars : List Char) : Decidable (AllAscii chars) := List.decidableBAll _ _

theorem ascii_carried (ascii : CarriesAscii encoding) (plain : AllAscii chars) : chars.all encoding = true :=
  List.all_eq_true.mpr fun c present => ascii c (plain c present)

theorem numeric_ascii (numeric : Numeric chars) : AllAscii chars := by
  intro c present
  have signs : AllAscii ['-', '+', '.', 'e'] := by decide
  rcases Bool.or_eq_true_iff.mp (numeric.2 c present) with digit | sign
  · simp only [isDigit, Bool.and_eq_true, decide_eq_true_eq] at digit
    have code : c.toNat ≤ 0x39 := digit.2
    omega
  · exact signs c (List.contains_iff_mem.mp sign)

theorem hex_ascii (width n : Nat) : AllAscii (Text.hex width n) := by
  have digits : ∀ digit < 16, (Text.hexDigit digit).toNat < 0x80 := by decide
  induction width generalizing n with
  | zero => exact List.forall_mem_nil _
  | succ width ih =>
      exact List.forall_mem_append.mpr
        ⟨ih (n / 16), List.forall_mem_singleton.mpr (digits _ (Nat.mod_lt _ (by decide)))⟩

theorem break_ascii (layout : Layout) (depth : Nat) : AllAscii (layout.breakAt depth) := by
  cases layout with
  | line => exact List.forall_mem_nil _
  | indented width =>
      refine List.forall_mem_cons.mpr ⟨by decide, fun c present => ?_⟩
      rw [List.eq_of_mem_replicate present]
      decide

theorem separator_ascii (layout : Layout) (depth : Nat) : AllAscii (layout.separator depth) := by
  cases layout with
  | line =>
      change AllAscii [',', ' ']
      decide
  | indented width => exact List.forall_mem_cons.mpr ⟨by decide, break_ascii _ _⟩

theorem short_carried (ascii : CarriesAscii encoding) {mark c escaped : Char} (equal : c = escaped)
    (plain : AllAscii ['\\', mark, escaped]) : ['\\', mark].all encoding = encoding c := by
  simp only [AllAscii, List.forall_mem_cons] at plain
  obtain ⟨slash, named, own, _⟩ := plain
  rw [equal, ascii escaped own]
  exact ascii_carried ascii (List.forall_mem_cons.mpr ⟨slash, List.forall_mem_singleton.mpr named⟩)

-- An escape stands for a character that is in ASCII itself.
theorem escape_carried (ascii : CarriesAscii encoding) (c : Char) : (escape c).all encoding = encoding c := by
  unfold escape
  split_ifs with quote slash line carriage tab back feed control
  · exact short_carried ascii quote (by decide)
  · exact short_carried ascii slash (by decide)
  · exact short_carried ascii line (by decide)
  · exact short_carried ascii carriage (by decide)
  · exact short_carried ascii tab (by decide)
  · exact short_carried ascii back (by decide)
  · exact short_carried ascii feed (by decide)
  · rw [ascii c (by omega), ascii_carried ascii]
    exact List.forall_mem_cons.mpr ⟨by decide, List.forall_mem_cons.mpr ⟨by decide, hex_ascii _ _⟩⟩
  · simp

theorem text_carried (ascii : CarriesAscii encoding) (string : String) :
    (writeText string).all encoding = carries encoding string := by
  have quote := ascii '\x22' (by decide)
  simp [writeText, carries, List.all_flatMap, escape_carried ascii, quote]

-- A value can be written where each of its strings can. The induction is the writer's own.
theorem write_carried (ascii : CarriesAscii encoding) (layout : Layout) (depth : Nat) (value : Value) :
    (write layout depth value).all encoding = value.strings.all (carries encoding) := by
  have gap : ∀ depth, (layout.breakAt depth).all encoding = true := fun depth => ascii_carried ascii (break_ascii _ _)
  have comma : ∀ depth, (layout.separator depth).all encoding = true :=
    fun depth => ascii_carried ascii (separator_ascii _ _)
  have words : AllAscii ['n', 'u', 'l', 'l'] ∧ AllAscii ['t', 'r', 'u', 'e'] ∧ AllAscii ['f', 'a', 'l', 's', 'e'] ∧
      AllAscii ['[', ']'] ∧ AllAscii ['\x7b', '\x7d'] := by decide
  have marks : ∀ c ∈ ['[', ']', '\x7b', '\x7d', ':', ' '], encoding c = true :=
    fun c present => ascii c ((by decide : AllAscii ['[', ']', '\x7b', '\x7d', ':', ' ']) c present)
  simp only [List.forall_mem_cons] at marks
  have written : (∀ depth value, (write layout depth value).all encoding = value.strings.all (carries encoding)) ∧
      (∀ depth rows, (writeRows layout depth rows).all encoding =
        (Value.stringsRows rows).all (carries encoding)) ∧
      ∀ depth items, (writeItems layout depth items).all encoding =
        (Value.stringsItems items).all (carries encoding) := by
    refine write.mutual_induct _ _ _ ?null ?yes ?no ?int ?real ?text ?noItems ?items ?noRows ?rows ?lastItem ?nextItem
      ?lastRow ?nextRow
    case null => exact fun _ => ascii_carried ascii words.1
    case yes => exact fun _ => ascii_carried ascii words.2.1
    case no =>
      intro _ flag unset
      rw [write, if_neg unset]
      exact ascii_carried ascii words.2.2.1
    case int => exact fun _ number => ascii_carried ascii (numeric_ascii (integer_numeric number))
    case real => exact fun _ number => ascii_carried ascii (numeric_ascii (decimal_numeric number))
    case text =>
      intro _ string
      rw [write, text_carried ascii]
      simp [Value.strings]
    case noItems => exact fun _ => ascii_carried ascii words.2.2.2.1
    case noRows => exact fun _ => ascii_carried ascii words.2.2.2.2
    case items =>
      intro depth item rest first others
      simp [write, Value.strings, Value.stringsItems, gap, marks, first, others]
    case rows =>
      intro depth key value rest first others
      simp [write, Value.strings, Value.stringsRows, gap, marks, text_carried ascii, first, others]
    case lastItem | lastRow => exact fun _ => rfl
    case nextItem =>
      intro depth item rest first others
      simp [writeItems, Value.stringsItems, comma, first, others]
    case nextRow =>
      intro depth key value rest first others
      simp [writeRows, Value.stringsRows, comma, marks, text_carried ascii, first, others]
  exact written.1 depth value

theorem document_carried (ascii : CarriesAscii encoding) (layout : Layout) (value : Value) :
    carries encoding (document layout value) = value.strings.all (carries encoding) := by
  have newline := ascii '\n' (by decide)
  rw [carries, document, String.toList_ofList, List.all_append, write_carried ascii,
    (Value.sortKeys_strings value).all_eq]
  simp [newline]

theorem without_ascii {strays : List Char} (beyond : ∀ c ∈ strays, 0x80 ≤ c.toNat) :
    CarriesAscii (Encodings.without strays).file := by
  intro c plain
  have apart : c ∉ strays := fun present => absurd (beyond c present) plain.not_ge
  simp [Encodings.without, apart]

end Json

-- Whether a descriptor can be written is a matter of the strings in it alone, in every layout.
theorem Pipeline.descriptor_carried {encoding : Char → Bool} (ascii : Json.CarriesAscii encoding) {pipeline : Pipeline}
    {layout : Json.Layout} {text : String} (described : pipeline.descriptor layout = .ok text) :
    ∃ record, pipeline.record = .ok record ∧ carries encoding text = record.strings.all (carries encoding) := by
  obtain ⟨record, recorded, same⟩ := bind_ok.mp described
  cases same
  exact ⟨record, recorded, Json.document_carried ascii layout record⟩

end BuildMatrix
