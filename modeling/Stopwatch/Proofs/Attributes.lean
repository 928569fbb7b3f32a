import Mathlib.Data.List.TakeWhile
import Stopwatch.Benchmark.CustomName

/-!
# Custom names in attributes

An attribute gives a custom name as a literal: the name in quotes, where a quote or a backslash of
the name has a backslash before it.  By the rules of literals the name can be read back
(`literalText?_literal`).  But a custom name is looked for by what stands first, and taken as it
stands: it ends at the first quote behind the one that opens it, be it a quote of the name, and no
backslash is taken away (`before?_escaped`).  So of a name up to its first quote every backslash is
found twice, and behind this the backslash of the quote.

`customName?_attributeText` says this for every name and whatever stands around the equals sign.
The names that are registered as they are meant are those without quotes and backslashes.
-/

namespace Stopwatch

/-! ### Literals -/

/-- The characters that have a backslash before them in a literal. -/
def IsEscaped (c : Char) : Prop := c = '"' ∨ c = '\\'

instance (c : Char) : Decidable (IsEscaped c) := inferInstanceAs (Decidable (c = '"' ∨ c = '\\'))

/-- A text as it is written between the quotes of a literal. -/
def escaped (text : List Char) : List Char :=
  text.flatMap fun c => if IsEscaped c then ['\\', c] else [c]

/-- The literal of a text. -/
def literal (text : List Char) : List Char := '"' :: (escaped text ++ ['"'])

/-- What is written up to the quote at the end of a literal, read by the rules of literals. -/
def closedText? : List Char → Option (List Char)
  | [] => none
  | ['"'] => some []
  | '"' :: _ => none
  | '\\' :: c :: rest => if IsEscaped c then (closedText? rest).map (c :: ·) else none
  | c :: rest => (closedText? rest).map (c :: ·)

/-- The text of a literal. -/
def literalText? : List Char → Option (List Char)
  | '"' :: rest => closedText? rest
  | _ => none

section Literals

variable {c : Char} {text rest : List Char}

theorem escaped_nil : escaped [] = [] := rfl

theorem escaped_cons_of_isEscaped (h : IsEscaped c) :
    escaped (c :: text) = '\\' :: c :: escaped text := by
  rw [escaped, List.flatMap_cons, if_pos h]
  rfl

theorem escaped_cons_of_plain (h : ¬ IsEscaped c) : escaped (c :: text) = c :: escaped text := by
  rw [escaped, List.flatMap_cons, if_neg h]
  rfl

theorem closedText?_plain (h : ¬ IsEscaped c) :
    closedText? (c :: rest) = (closedText? rest).map (c :: ·) := by
  unfold IsEscaped at h
  rw [closedText?]
  · rintro rfl
    exact absurd (.inl rfl) h
  · rintro rfl
    exact absurd (.inl rfl) h
  · rintro _ _ rfl
    exact absurd (.inr rfl) h

/-- **A literal is read back** as the text that it was made of. -/
theorem literalText?_literal (text : List Char) : literalText? (literal text) = some text := by
  -- No induction on the literal itself, since two characters of it may be one of the text.
  show closedText? (escaped text ++ ['"']) = some text
  induction text with
  | nil => rfl
  | cons c text ih =>
    by_cases h : IsEscaped c
    · rw [escaped_cons_of_isEscaped h, List.cons_append, List.cons_append, closedText?, if_pos h,
        ih]
      rfl
    · rw [escaped_cons_of_plain h, List.cons_append, closedText?_plain h, ih]
      rfl

theorem escaped_of_plain (h : ∀ c ∈ text, ¬ IsEscaped c) : escaped text = text := by
  induction text with
  | nil => rfl
  | cons c text ih =>
    rw [escaped_cons_of_plain (h c List.mem_cons_self),
      ih fun d hd => h d (List.mem_cons_of_mem c hd)]

/-- `escaped` adds one character for each that `IsEscaped`. -/
theorem length_escaped (text : List Char) :
    (escaped text).length = text.length + text.countP (IsEscaped ·) := by
  induction text with
  | nil => rfl
  | cons c text ih =>
    by_cases h : IsEscaped c
    · rw [escaped_cons_of_isEscaped h, List.countP_cons, if_pos (decide_eq_true h)]
      simp only [List.length_cons, ih]
      omega
    · rw [escaped_cons_of_plain h, List.countP_cons, if_neg (by simpa using h)]
      simp only [List.length_cons, ih]
      omega

theorem escaped_eq_self_iff : escaped text = text ↔ ∀ c ∈ text, ¬ IsEscaped c := by
  refine ⟨fun h => ?_, escaped_of_plain⟩
  -- A text that is not changed has not grown.
  have hlength := length_escaped text
  rw [h] at hlength
  have hnone : text.countP (IsEscaped ·) = 0 := by omega
  simpa using hnone

end Literals

/-! ### Looking for a name -/

section Search

variable {mark : Char} {front rest name : List Char}

/-- If `pattern` stands in front, what comes behind is `rest`. -/
theorem after?_append (pattern rest : List Char) :
    after? pattern (pattern ++ rest) = some rest := by
  cases h : pattern ++ rest with
  | nil =>
    obtain ⟨rfl, rfl⟩ := List.append_eq_nil_iff.1 h
    rfl
  | cons c cs =>
    have hfront : pattern.isPrefixOf (c :: cs) = true :=
      List.isPrefixOf_iff_prefix.2 ⟨rest, h⟩
    rw [after?, if_pos hfront, ← h, List.drop_left]

/-- If `mark` is not in `front`, it is found behind it. -/
theorem after?_singleton (h : mark ∉ front) :
    after? [mark] (front ++ mark :: rest) = some rest := by
  induction front with
  | nil => exact after?_append [mark] rest
  | cons c front ih =>
    obtain ⟨hc, hfront⟩ := not_or.1 (mt List.mem_cons.2 h)
    have hnot : ¬ [mark].isPrefixOf (c :: (front ++ mark :: rest)) = true := by
      simpa [List.isPrefixOf] using hc
    rw [List.cons_append, after?, if_neg hnot, ih hfront]

/-- What `before?` answers does not contain the `mark` that it looks for. -/
theorem not_mem_of_before? {text : List Char} (h : before? mark text = some front) :
    mark ∉ front := by
  induction text generalizing front with
  | nil => cases h
  | cons c text ih =>
    rw [before?] at h
    split at h
    next => exact Option.some.inj h ▸ List.not_mem_nil
    next hc =>
      obtain ⟨front', hfront', rfl⟩ := Option.map_eq_some_iff.1 h
      exact mt List.mem_cons.1 (not_or.2 ⟨fun hmark => hc hmark.symm, ih hfront'⟩)

/-- The part of a name that is found: what its literal holds of it up to its first quote, and the
backslash of that quote. -/
def foundPart (name : List Char) : List Char :=
  escaped (name.takeWhile (· ≠ '"')) ++ if '"' ∈ name then ['\\'] else []

/-- **A name is looked for up to the next quote**: of its literal, `before?` finds `foundPart`. -/
theorem before?_escaped (name rest : List Char) :
    before? '"' (escaped name ++ '"' :: rest) = some (foundPart name) := by
  induction name with
  | nil => rfl
  | cons c name ih =>
    by_cases hquote : c = '"'
    · subst hquote
      rw [escaped_cons_of_isEscaped (.inl rfl)]
      simp [before?, foundPart, escaped_nil]
    -- Any other character is found as it stands, and a backslash stands twice.
    have htake : (c :: name).takeWhile (· ≠ '"') = c :: name.takeWhile (· ≠ '"') :=
      List.takeWhile_cons_of_pos (by simpa using hquote)
    have hmem : '"' ∈ c :: name ↔ '"' ∈ name := by simp [Ne.symm hquote]
    by_cases hback : c = '\\'
    · subst hback
      rw [escaped_cons_of_isEscaped (.inr rfl), foundPart, htake,
        escaped_cons_of_isEscaped (.inr rfl)]
      simp [before?, ih, foundPart, hmem]
    · have hplain : ¬ IsEscaped c := not_or.2 ⟨hquote, hback⟩
      rw [escaped_cons_of_plain hplain, foundPart, htake, escaped_cons_of_plain hplain]
      simp [before?, hquote, ih, foundPart, hmem]

/-- A name is found as it is if and only if it has neither quotes nor backslashes. -/
theorem foundPart_eq_self_iff : foundPart name = name ↔ '"' ∉ name ∧ '\\' ∉ name := by
  -- What is found has no quote, so a name with one is not found; without one, all of it is found.
  have hclean : '"' ∉ foundPart name := not_mem_of_before? (before?_escaped name [])
  have hfound : '"' ∉ name → foundPart name = escaped name := by
    intro hquote
    have htake : name.takeWhile (· ≠ '"') = name :=
      List.takeWhile_eq_self_iff.2 fun c hc => decide_eq_true fun heq => hquote (heq ▸ hc)
    rw [foundPart, htake, if_neg hquote, List.append_nil]
  constructor
  · intro h
    have hquote : '"' ∉ name := h ▸ hclean
    have hplain := escaped_eq_self_iff.1 ((hfound hquote).symm.trans h)
    exact ⟨hquote, fun hback => hplain _ hback (.inr rfl)⟩
  · rintro ⟨hquote, hback⟩
    rw [hfound hquote, escaped_eq_self_iff]
    rintro c hc (rfl | rfl)
    · exact hquote hc
    · exact hback hc

end Search

/-! ### Attributes -/

/-- The text of an attribute that gives a name; `before` and `behind` are around the equals sign. -/
def attributeText (before behind : List Char) (name : String) : String :=
  String.ofList ("name".toList ++ (before ++ '=' :: (behind ++ literal name.toList)))

/-- **A custom name is found up to its first quote, with every backslash twice.**  Let an attribute
give a name as a literal, with blanks or anything else around the equals sign that does not hold
what is looked for next.

* The literal denotes the name.
* Found is the part of the literal that stands before its next quote, which is what the name has up
  to its own first quote, with the backslashes of the literal.
* So a name is found as it is if and only if it has neither quotes nor backslashes.
* What is found is the name under which the function is registered, whatever its own name is. -/
theorem customName?_attributeText (name : String) {before behind : List Char}
    (hbefore : '=' ∉ before) (hbehind : '"' ∉ behind) :
    literalText? (literal name.toList) = some name.toList ∧
    customName? (attributeText before behind name) =
      some (String.ofList (foundPart name.toList)) ∧
    (customName? (attributeText before behind name) = some name ↔
      '"' ∉ name.toList ∧ '\\' ∉ name.toList) ∧
    ∀ function, registeredName (attributeText before behind name) function =
      String.ofList (foundPart name.toList) := by
  have hfound : customName? (attributeText before behind name) =
      some (String.ofList (foundPart name.toList)) := by
    have htext : (attributeText before behind name).toList =
        "name".toList ++ (before ++ '=' :: (behind ++ literal name.toList)) := String.toList_ofList
    have hquote : after? ['"'] (behind ++ literal name.toList) =
        some (escaped name.toList ++ ['"']) :=
      after?_singleton hbehind
    simp only [customName?, htext, after?_append, after?_singleton hbefore, hquote, before?_escaped,
      Option.bind_eq_bind, Option.bind_some, Option.pure_def]
  refine ⟨literalText?_literal name.toList, hfound, ?_, fun function => ?_⟩
  · rw [hfound, Option.some_inj, ← String.toList_inj, String.toList_ofList, foundPart_eq_self_iff]
  · rw [registeredName, hfound, Option.getD_some]

/-- A path with a backslash, in an attribute with blanks of three kinds. -/
theorem customName?_attributeText_path : '=' ∉ [' ', '\t'] ∧ '"' ∉ ['\n'] ∧
    customName? (attributeText [' ', '\t'] ['\n'] "a\\b") = some "a\\\\b" := by
  refine ⟨by decide, by decide, ?_⟩
  rw [(customName?_attributeText "a\\b" (by decide) (by decide)).2.1]
  rfl

/-- A name with a quote is cut off there, and keeps the backslash of the quote. -/
theorem customName?_cut_off : attributeText [' '] [' '] "a\"b" = "name = \"a\\\"b\"" ∧
    literalText? "\"a\\\"b\"".toList = some "a\"b".toList ∧
    customName? "name = \"a\\\"b\"" = some "a\\" ∧
    registeredName "name = \"a\\\"b\"" "work" = "a\\" := by
  exact ⟨rfl, rfl, rfl, rfl⟩

end Stopwatch
