/-!
# Blank characters and trimming

* `trim` removes the blanks at both ends of a text.
* `trimmed_trim`, `trim_of_trimmed`: what is left neither starts nor ends with a blank, and a text
  that does neither is left as it is.
* `trim_eq_iff`: the text is what is left, with blanks before and behind it.
-/

namespace IdentityStore.Text

/-- The code points with the property `White_Space`: the ASCII controls from tab to carriage
return, the spaces of all widths, and the line and paragraph separators. -/
def isBlank (c : Char) : Bool :=
  let n := c.toNat
  (0x09 ≤ n && n ≤ 0x0D) || n == 0x20 || n == 0x85 || n == 0xA0 || n == 0x1680 ||
    (0x2000 ≤ n && n ≤ 0x200A) || n == 0x2028 || n == 0x2029 || n == 0x202F || n == 0x205F ||
    n == 0x3000

def trimStart (cs : List Char) : List Char := cs.dropWhile isBlank

def trimEnd (cs : List Char) : List Char := (trimStart cs.reverse).reverse

def trim (s : String) : String := .ofList (trimEnd (trimStart s.toList))

/-- A text is **trimmed** when neither its first nor its last character is blank. -/
def Trimmed (s : String) : Prop :=
  s.toList.head?.any isBlank = false ∧ s.toList.getLast?.any isBlank = false

instance (s : String) : Decidable (Trimmed s) :=
  inferInstanceAs (Decidable (s.toList.head?.any isBlank = false ∧
    s.toList.getLast?.any isBlank = false))

theorem trimmed_iff {s : String} :
    Trimmed s ↔ (∀ c ∈ s.toList.head?, isBlank c = false) ∧
      (∀ c ∈ s.toList.getLast?, isBlank c = false) := by
  simp [Trimmed, Option.any_eq_false]

/-- A text is another one with blanks before and behind it. -/
def Pads (s t : String) : Prop :=
  ∃ lead tail : String, s = lead ++ t ++ tail ∧ (∀ c ∈ lead.toList, isBlank c) ∧
    ∀ c ∈ tail.toList, isBlank c

/-! ## Laws of trimming -/

private theorem head_trimStart (cs : List Char) :
    ∀ c ∈ (trimStart cs).head?, isBlank c = false := by
  intro c hc
  have := List.head?_dropWhile_not isBlank cs
  unfold trimStart at hc
  cases h : (cs.dropWhile isBlank).head? with
  | none => rw [h] at hc; cases hc
  | some d =>
    rw [h] at this hc
    cases hc
    simpa using this

private theorem getLast_trimEnd (cs : List Char) :
    ∀ c ∈ (trimEnd cs).getLast?, isBlank c = false := by
  intro c hc
  rw [trimEnd, List.getLast?_reverse] at hc
  exact head_trimStart _ c hc

private theorem trimStart_of_head {cs : List Char} (h : ∀ c ∈ cs.head?, isBlank c = false) :
    trimStart cs = cs := by
  cases cs with
  | nil => rfl
  | cons c r => simp [trimStart, h c rfl]

private theorem trimEnd_of_getLast {cs : List Char}
    (h : ∀ c ∈ cs.getLast?, isBlank c = false) : trimEnd cs = cs := by
  rw [trimEnd, trimStart_of_head, List.reverse_reverse]
  simpa [List.head?_reverse] using h

private theorem trimEnd_isPrefix (cs : List Char) : trimEnd cs <+: cs := by
  have h : (trimStart cs.reverse) <:+ cs.reverse := List.dropWhile_suffix _
  simpa [trimEnd] using List.reverse_prefix.2 h

private theorem trimStart_eq_nil_iff (cs : List Char) :
    trimStart cs = [] ↔ ∀ c ∈ cs, isBlank c := by
  induction cs with
  | nil => simp [trimStart]
  | cons c r ih =>
    unfold trimStart at ih ⊢
    cases h : isBlank c <;> simp [h, ih]

private theorem trimEnd_eq_nil_iff (cs : List Char) :
    trimEnd cs = [] ↔ ∀ c ∈ cs, isBlank c := by
  simp [trimEnd, trimStart_eq_nil_iff]

theorem trimmed_trim (s : String) : Trimmed (trim s) := by
  rw [trimmed_iff]
  refine ⟨?_, ?_⟩
  · intro c hc
    rw [trim, String.toList_ofList] at hc
    obtain ⟨r, hr⟩ := trimEnd_isPrefix (trimStart s.toList)
    refine head_trimStart s.toList c ?_
    rw [← hr]
    cases h : trimEnd (trimStart s.toList) with
    | nil => rw [h] at hc; cases hc
    | cons d t => rw [h] at hc; simpa using hc
  · intro c hc
    rw [trim, String.toList_ofList] at hc
    exact getLast_trimEnd _ c hc

theorem trim_of_trimmed {s : String} (h : Trimmed s) : trim s = s := by
  obtain ⟨hs, he⟩ := trimmed_iff.1 h
  rw [trim, trimStart_of_head hs, trimEnd_of_getLast he, String.ofList_toList]

theorem trim_eq_empty_iff (s : String) : trim s = "" ↔ ∀ c ∈ s.toList, isBlank c := by
  rw [trim, ← String.toList_inj, String.toList_ofList, String.toList_empty, trimEnd_eq_nil_iff]
  constructor
  · intro h
    rw [← trimStart_eq_nil_iff]
    cases hs : trimStart s.toList with
    | nil => rfl
    | cons c r =>
      have hb := h c (by simp [hs])
      have := head_trimStart s.toList c (by simp [hs])
      simp [hb] at this
  · intro h c hc
    exact h c ((List.dropWhile_suffix _).subset hc)

private theorem exists_trimStart (cs : List Char) :
    ∃ lead, cs = lead ++ trimStart cs ∧ ∀ c ∈ lead, isBlank c :=
  ⟨cs.takeWhile isBlank, List.takeWhile_append_dropWhile.symm,
    List.all_eq_true.1 List.all_takeWhile⟩

private theorem exists_trimEnd (cs : List Char) :
    ∃ tail, cs = trimEnd cs ++ tail ∧ ∀ c ∈ tail, isBlank c := by
  obtain ⟨lead, hcs, hlead⟩ := exists_trimStart cs.reverse
  refine ⟨lead.reverse, ?_, fun c hc => hlead c (List.mem_reverse.1 hc)⟩
  rw [trimEnd, ← List.reverse_append, ← hcs, List.reverse_reverse]

private theorem trimStart_append_of_blank {lead : List Char} (h : ∀ c ∈ lead, isBlank c)
    (cs : List Char) : trimStart (lead ++ cs) = trimStart cs :=
  List.dropWhile_append_of_pos h

private theorem trimEnd_append_of_blank {tail : List Char} (h : ∀ c ∈ tail, isBlank c)
    (cs : List Char) : trimEnd (cs ++ tail) = trimEnd cs := by
  rw [trimEnd, List.reverse_append, trimStart_append_of_blank, ← trimEnd]
  exact fun c hc => h c (List.mem_reverse.1 hc)

/-- **What is left of a text after trimming** is the trimmed text from which it comes by adding
blanks at the two ends. -/
theorem trim_eq_iff {s t : String} : trim s = t ↔ Trimmed t ∧ Pads s t := by
  constructor
  · rintro rfl
    refine ⟨trimmed_trim s, ?_⟩
    obtain ⟨lead, hs, hlead⟩ := exists_trimStart s.toList
    obtain ⟨tail, hrest, htail⟩ := exists_trimEnd (trimStart s.toList)
    refine ⟨.ofList lead, .ofList tail, ?_, by simpa using hlead, by simpa using htail⟩
    rw [← String.toList_inj, trim]
    simp only [String.toList_append, String.toList_ofList, List.append_assoc]
    rw [← hrest, ← hs]
  · rintro ⟨ht, lead, tail, rfl, hlead, htail⟩
    cases hcs : t.toList with
    | nil =>
      obtain rfl : t = "" := by rw [← String.toList_inj, hcs, String.toList_empty]
      rw [trim_eq_empty_iff]
      intro c hc
      simp only [String.toList_append, hcs, List.append_nil, List.mem_append] at hc
      exact hc.elim (hlead c) (htail c)
    | cons c r =>
      have hhead : ∀ d ∈ (t.toList ++ tail.toList).head?, isBlank d = false := by
        rw [hcs]
        exact fun d hd => (trimmed_iff.1 ht).1 d (by rw [hcs]; exact hd)
      rw [trim, String.toList_append, String.toList_append, List.append_assoc,
        trimStart_append_of_blank hlead, trimStart_of_head hhead, trimEnd_append_of_blank htail,
        trimEnd_of_getLast (trimmed_iff.1 ht).2, String.ofList_toList]

end IdentityStore.Text
