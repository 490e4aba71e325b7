import MarkdownLint.Text.Integer

/-!
Numbers are read as they were written.
-/
namespace MarkdownLint.Text

theorem isDigit_range {c : Char} (hc : c.isDigit = true) : 48 ≤ c.toNat ∧ c.toNat ≤ 57 :=
  Char.isDigit_iff_toNat.mp hc

theorem digitIn?_of_isDigit {c : Char} (hc : c.isDigit = true) :
    digitIn? 10 c = some (c.toNat - '0'.toNat) := by
  obtain ⟨hlow, hhigh⟩ := isDigit_range hc
  have hvalue : digitValue? c = some (c.toNat - 0x30) := by
    have hascii : c.toNat < 0x80 := by omega
    simp [digitValue?, hascii, hlow, hhigh]
  have hlt : c.toNat - 48 < 10 := by omega
  simp [digitIn?, hvalue, hlt]

theorem readDigits?_eq {cs : List Char} (hcs : ∀ c ∈ cs, c.isDigit = true) (value : Nat) :
    readDigits? 10 value cs = some (Nat.ofDigitChars 10 cs value) := by
  induction cs generalizing value with
  | nil => simp [readDigits?]
  | cons c cs ih =>
    have hc := hcs c (by simp)
    have hunderscore : c ≠ '_' := by rintro rfl; exact absurd hc (by decide)
    have hrest := ih (fun d hd => hcs d (by simp [hd])) (10 * value + (c.toNat - '0'.toNat))
    rw [readDigits?]
    · rw [digitIn?_of_isDigit hc, Option.bind_some, hrest, Nat.ofDigitChars_cons]
    · intro d ds h
      exact absurd h hunderscore

/-- The digits of a number are read as the number. -/
theorem readNatural?_toDigits (n : Nat) : readNatural? 10 (Nat.toDigits 10 n) = some n := by
  have hdigits : ∀ c ∈ Nat.toDigits 10 n, c.isDigit = true :=
    fun c hc => Nat.isDigit_of_mem_toDigits (by decide) (by decide) hc
  have hvalue : Nat.ofDigitChars 10 (Nat.toDigits 10 n) 0 = n := Nat.ofDigitChars_ten_toDigits
  cases h : Nat.toDigits 10 n with
  | nil => exact absurd h Nat.toDigits_ne_nil
  | cons c cs =>
    rw [h] at hdigits hvalue
    rw [readNatural?, digitIn?_of_isDigit (hdigits c (by simp)), Option.bind_some,
      readDigits?_eq fun d hd => hdigits d (by simp [hd])]
    rw [Nat.ofDigitChars_cons, Nat.mul_zero, Nat.zero_add] at hvalue
    rw [hvalue]

theorem dropBaseMark_ten (cs : List Char) : dropBaseMark 10 cs = cs := by
  unfold dropBaseMark
  split
  · rfl
  · rfl

/-- A text without blanks is not trimmed. -/
theorem trim_eq_self {cs : List Char} (h : ∀ c ∈ cs, isBlank c = false) : trim cs = cs := by
  have hdrop : ∀ ds : List Char, (∀ c ∈ ds, isBlank c = false) → ds.dropWhile isBlank = ds := by
    intro ds hds
    cases ds with
    | nil => rfl
    | cons d ds => exact List.dropWhile_cons_of_neg (by simp [hds d (by simp)])
  rw [trim, hdrop cs h, dropEndWhile, hdrop _ fun c hc => h c (List.mem_reverse.mp hc),
    List.reverse_reverse]

/-- A character that written numbers consist of. -/
def isNumeric (c : Char) : Bool := c.isDigit || c == '-'

theorem toList_toString_nat (n : Nat) : (toString n).toList = Nat.toDigits 10 n := Nat.toList_repr

theorem toString_cases (n : Int) :
    (∃ m : Nat, n = m ∧ (toString n).toList = Nat.toDigits 10 m) ∨
      ∃ m : Nat, n = -m ∧ (toString n).toList = '-' :: Nat.toDigits 10 m := by
  cases n with
  | ofNat m => exact .inl ⟨m, rfl, toList_toString_nat m⟩
  | negSucc m =>
    refine .inr ⟨m + 1, rfl, ?_⟩
    show ("-" ++ toString (m + 1)).toList = '-' :: Nat.toDigits 10 (m + 1)
    rw [String.toList_append, toList_toString_nat]
    rfl

theorem isNumeric_of_mem_toString {n : Int} {c : Char} (h : c ∈ (toString n).toList) :
    isNumeric c = true := by
  have hdigit : ∀ m, c ∈ Nat.toDigits 10 m → c.isDigit = true :=
    fun m hc => Nat.isDigit_of_mem_toDigits (by decide) (by decide) hc
  rcases toString_cases n with ⟨m, -, hm⟩ | ⟨m, -, hm⟩
  · rw [hm] at h
    simp [isNumeric, hdigit m h]
  · rw [hm, List.mem_cons] at h
    rcases h with rfl | h
    · decide
    · simp [isNumeric, hdigit m h]

theorem isNumeric_range {c : Char} (hc : isNumeric c = true) : 45 ≤ c.toNat ∧ c.toNat ≤ 57 := by
  rw [isNumeric, Bool.or_eq_true, beq_iff_eq] at hc
  rcases hc with hc | rfl
  · obtain ⟨hlow, hhigh⟩ := isDigit_range hc
    omega
  · decide

theorem isBlank_of_isNumeric {c : Char} (hc : isNumeric c = true) : isBlank c = false := by
  obtain ⟨hlow, hhigh⟩ := isNumeric_range hc
  simp [isBlank]
  omega

theorem readInteger?_toString (n : Int) : readInteger? (toString n) = some n := by
  have htrim : trim (toString n).toList = (toString n).toList :=
    trim_eq_self fun c hc => isBlank_of_isNumeric (isNumeric_of_mem_toString hc)
  rw [readInteger?, readIntegerIn?, htrim]
  rcases toString_cases n with ⟨m, rfl, hm⟩ | ⟨m, rfl, hm⟩
  · rw [hm]
    have hsign : ∀ c cs, Nat.toDigits 10 m = c :: cs → c.isDigit = true := by
      intro c cs h
      exact Nat.isDigit_of_mem_toDigits (by decide) (by decide) (h ▸ List.mem_cons_self)
    split
    · rename_i h
      exact absurd (hsign _ _ h) (by decide)
    · rename_i h
      exact absurd (hsign _ _ h) (by decide)
    · rw [dropBaseMark_ten, readNatural?_toDigits]
      rfl
  · simp only [hm, dropBaseMark_ten, readNatural?_toDigits]
    rfl

end MarkdownLint.Text
