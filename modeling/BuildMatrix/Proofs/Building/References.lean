import BuildMatrix.Job.Steps
import Mathlib.Data.List.TakeWhile

namespace BuildMatrix

-- References to variables in a text, $NAME or with the name in braces. A name goes
-- as far as it can and does not begin with a digit.

def isNamePart (c : Char) : Bool := c.isAlphanum || c == '_'

def nameAt (chars : List Char) : Option String :=
  match chars.takeWhile isNamePart with
  | [] => none
  | c :: rest => if c.isDigit then none else some (String.ofList (c :: rest))

def referenceAt : List Char → Option String
  | [] => none
  | c :: rest =>
      if c = '\x7b' then if (rest.dropWhile isNamePart).head? = some '\x7d' then nameAt rest else none
      else nameAt (c :: rest)

def scan : List Char → List String
  | [] => []
  | c :: rest => (if c = '$' then (referenceAt rest).toList else []) ++ scan rest

def references (text : String) : List String := scan text.toList

def Unmarked (text : String) : Prop := '$' ∉ text.toList

instance (text : String) : Decidable (Unmarked text) := inferInstanceAs (Decidable (¬_))

def IsName (name : String) : Prop := (∀ c ∈ name.toList, isNamePart c = true) ∧ nameAt name.toList = some name

instance (name : String) : Decidable (IsName name) := @instDecidableAnd _ _ (List.decidableBAll _ _) inferInstance

variable {text before after name : String}

theorem scan_after {marks chars : List Char} (unmarked : '$' ∉ marks) : scan (marks ++ chars) = scan chars := by
  induction marks with
  | nil => rfl
  | cons c rest ih =>
      simp only [List.mem_cons, not_or] at unmarked
      have other : c ≠ '$' := fun equal => unmarked.1 equal.symm
      rw [List.cons_append, scan, if_neg other, ih unmarked.2]
      rfl

theorem references_after (unmarked : Unmarked before) : references (before ++ after) = references after := by
  rw [references, String.toList_append]
  exact scan_after unmarked

theorem references_unmarked (unmarked : Unmarked text) : references text = [] := by
  have scanned : scan (text.toList ++ []) = scan [] := scan_after unmarked
  rwa [List.append_nil] at scanned

theorem unmarked_append : Unmarked (before ++ after) ↔ Unmarked before ∧ Unmarked after := by
  simp only [Unmarked, String.toList_append, List.mem_append, not_or]

theorem part_plain {c : Char} (part : isNamePart c = true) : c ≠ '$' ∧ c ≠ '\x7b' ∧ c ≠ '\x7d' := by
  refine ⟨?_, ?_, ?_⟩
  all_goals
    intro equal
    subst equal
    revert part
    decide

theorem name_unmarked (named : IsName name) : Unmarked name :=
  fun present => (part_plain (named.1 _ present)).1 rfl

theorem references_envRef (named : IsName name) (after : String) :
    references (Steps.envRef name ++ after) = name :: references after := by
  have parts := named.1
  have stop : isNamePart '\x7d' = false := by decide
  have taken : (name.toList ++ '\x7d' :: after.toList).takeWhile isNamePart = name.toList.takeWhile isNamePart := by
    rw [List.takeWhile_append_of_pos parts, List.takeWhile_cons, if_neg (by simp [stop]), List.append_nil,
      List.takeWhile_eq_self_iff.mpr parts]
  have dropped : (name.toList ++ '\x7d' :: after.toList).dropWhile isNamePart = '\x7d' :: after.toList := by
    rw [List.dropWhile_append_of_pos parts, List.dropWhile_cons, if_neg (by simp [stop])]
  have read : nameAt (name.toList ++ '\x7d' :: after.toList) = some name := by
    rw [nameAt, taken]
    exact named.2
  have unmarked : '$' ∉ '\x7b' :: name.toList ++ ['\x7d'] := by
    have marked : '$' ∉ name.toList := name_unmarked named
    simp [marked]
  have rest : scan (('\x7b' :: name.toList ++ ['\x7d']) ++ after.toList) = references after := scan_after unmarked
  have spelled : (Steps.envRef name ++ after).toList = '$' :: '\x7b' :: (name.toList ++ '\x7d' :: after.toList) := by
    simp [Steps.envRef]
  rw [references, spelled, scan, if_pos rfl, referenceAt, if_pos rfl, dropped, read]
  simpa using rest

theorem references_envRef_unmarked (named : IsName name) (unmarked : Unmarked after) :
    references (Steps.envRef name ++ after) = [name] := by
  rw [references_envRef named, references_unmarked unmarked]

theorem references_envRef_alone (named : IsName name) : references (Steps.envRef name) = [name] := by
  have read := references_envRef named ""
  rwa [String.append_empty] at read

-- Spellings by which no reference comes up that was not there before.

def FaithfulSpelling (spelling : PathSpelling) : Prop := ∀ path, references (spelling path) ⊆ references path

def FaithfulCopy (copy : DirectoryCopy) : Prop :=
  ∀ source target, ∀ argument ∈ copy source target, references argument ⊆ references source ++ references target

-- Those of the platforms are. They leave alone what references are made of, and what
-- they put behind a text neither carries a name on nor closes a brace.

def isMarking (c : Char) : Bool := isNamePart c || ['$', '\x7b', '\x7d'].contains c

theorem marking_apart {c : Char} (apart : isMarking c = false) :
    isNamePart c = false ∧ c ≠ '$' ∧ c ≠ '\x7b' ∧ c ≠ '\x7d' := by
  simpa [isMarking] using apart

section
variable {suffix : List Char} (apart : ∀ c ∈ suffix.head?, isMarking c = false)
include apart

theorem nameAt_suffix (chars : List Char) : nameAt (chars ++ suffix) = nameAt chars := by
  have taken : (chars ++ suffix).takeWhile isNamePart = chars.takeWhile isNamePart := by
    induction chars with
    | nil =>
        cases suffix with
        | nil => rfl
        | cons c rest => simp [(marking_apart (apart c rfl)).1]
    | cons c rest ih => rw [List.cons_append, List.takeWhile_cons, List.takeWhile_cons, ih]
  rw [nameAt, nameAt, taken]

theorem closed_suffix (chars : List Char) : ((chars ++ suffix).dropWhile isNamePart).head? = some '\x7d' ↔
    (chars.dropWhile isNamePart).head? = some '\x7d' := by
  induction chars with
  | nil =>
      cases suffix with
      | nil => rfl
      | cons c rest =>
          obtain ⟨part, _, _, closing⟩ := marking_apart (apart c rfl)
          simp [part, closing]
  | cons c rest ih =>
      rw [List.cons_append, List.dropWhile_cons, List.dropWhile_cons]
      split
      · exact ih
      · exact .rfl

theorem referenceAt_suffix (chars : List Char) : referenceAt (chars ++ suffix) = referenceAt chars := by
  cases chars with
  | nil =>
      cases suffix with
      | nil => rfl
      | cons c rest =>
          obtain ⟨part, _, opening, _⟩ := marking_apart (apart c rfl)
          simp [referenceAt, opening, nameAt, part]
  | cons c rest =>
      have named := nameAt_suffix apart (c :: rest)
      rw [List.cons_append] at named ⊢
      simp only [referenceAt, closed_suffix apart, nameAt_suffix apart, named]

theorem scan_suffix (unmarked : '$' ∉ suffix) (chars : List Char) : scan (chars ++ suffix) = scan chars := by
  induction chars with
  | nil =>
      have scanned : scan (suffix ++ []) = scan [] := scan_after unmarked
      rwa [List.append_nil] at scanned
  | cons c rest ih => rw [List.cons_append, scan, scan, referenceAt_suffix apart, ih]

end

section
variable {change : Char → Char}
  (fixes : ∀ c, change c = c ∨ isMarking c = false ∧ isMarking (change c) = false)
include fixes

theorem nameAt_map (chars : List Char) : nameAt (chars.map change) = nameAt chars := by
  have taken : (chars.map change).takeWhile isNamePart = chars.takeWhile isNamePart := by
    induction chars with
    | nil => rfl
    | cons c rest ih =>
        rw [List.map_cons, List.takeWhile_cons, List.takeWhile_cons, ih]
        cases fixes c with
        | inl same => rw [same]
        | inr apart => simp [(marking_apart apart.1).1, (marking_apart apart.2).1]
  rw [nameAt, nameAt, taken]

theorem closed_map (chars : List Char) : ((chars.map change).dropWhile isNamePart).head? = some '\x7d' ↔
    (chars.dropWhile isNamePart).head? = some '\x7d' := by
  induction chars with
  | nil => rfl
  | cons c rest ih =>
      rw [List.map_cons, List.dropWhile_cons, List.dropWhile_cons]
      cases fixes c with
      | inl same =>
          rw [same]
          split
          · exact ih
          · exact .rfl
      | inr apart =>
          obtain ⟨part, _, _, closing⟩ := marking_apart apart.1
          obtain ⟨changed, _, _, other⟩ := marking_apart apart.2
          simp [part, closing, changed, other]

theorem scan_map (chars : List Char) : scan (chars.map change) = scan chars := by
  have read : ∀ chars, referenceAt (chars.map change) = referenceAt chars := by
    intro chars
    cases chars with
    | nil => rfl
    | cons c rest =>
        have named := nameAt_map fixes (c :: rest)
        rw [List.map_cons] at named ⊢
        cases fixes c with
        | inl same =>
            rw [same] at named ⊢
            simp only [referenceAt, closed_map fixes, nameAt_map fixes, named]
        | inr apart =>
            simp only [referenceAt, (marking_apart apart.1).2.2.1, (marking_apart apart.2).2.2.1, if_false, named]
  induction chars with
  | nil => rfl
  | cons c rest ih =>
      rw [List.map_cons, scan, scan, read, ih]
      cases fixes c with
      | inl same => rw [same]
      | inr apart => rw [if_neg (marking_apart apart.1).2.1, if_neg (marking_apart apart.2).2.1]

end

namespace Platform

theorem windowsPath_references (path : String) : references (windowsPath path) = references path := by
  rw [references, windowsPath, String.toList_map]
  apply scan_map
  intro c
  by_cases slash : c = '/'
  · subst slash
    exact .inr (by decide)
  · exact .inl (if_neg slash)

theorem suffix_references (path : String) {suffix : String} (apart : suffix.toList.head?.any isMarking = false)
    (unmarked : Unmarked suffix) : references (path ++ suffix) = references path := by
  rw [references, String.toList_append]
  exact scan_suffix ((Option.any_eq_false _ _).mp apart) unmarked _

theorem spellings_faithful :
    FaithfulSpelling unixPath ∧ FaithfulSpelling windowsPath ∧ FaithfulSpelling windowsExe ∧
      FaithfulSpelling darwinJdkHome := by
  refine ⟨fun path => List.Subset.refl _, fun path => ?_, fun path => ?_, fun path => ?_⟩
  · rw [windowsPath_references]
    exact List.Subset.refl _
  · rw [windowsExe, suffix_references _ (by decide) (by decide), windowsPath_references]
    exact List.Subset.refl _
  · rw [darwinJdkHome, suffix_references _ (by decide) (by decide)]
    exact List.Subset.refl _

theorem copies_faithful : FaithfulCopy unixCopyDir ∧ FaithfulCopy windowsCopyDir := by
  have plain : ∀ word ∈ ["cp", "-r", "xcopy", "/e", "/i", "/q"], references word = [] := by decide
  refine ⟨fun source target argument present => ?_, fun source target argument present => ?_⟩
  · simp only [unixCopyDir, List.mem_cons, List.not_mem_nil, or_false] at present
    rcases present with rfl | rfl | rfl | rfl
    · simp [plain]
    · simp [plain]
    · exact List.subset_append_left _ _
    · exact List.subset_append_right _ _
  · simp only [windowsCopyDir, List.mem_cons, List.not_mem_nil, or_false] at present
    rcases present with rfl | rfl | rfl | rfl | rfl | rfl
    · simp [plain]
    · rw [windowsPath_references]
      exact List.subset_append_left _ _
    · rw [windowsPath_references]
      exact List.subset_append_right _ _
    · simp [plain]
    · simp [plain]
    · simp [plain]

end Platform

end BuildMatrix
