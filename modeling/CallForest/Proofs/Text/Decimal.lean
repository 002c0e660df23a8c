import CallForest.Text.Decimal
import CallForest.Proofs.Text.Words

/-!
# Numbers are read as they were written

The digits of a number are read back to the number (`natural?_decimal`), so different numbers are
written differently (`decimal_inj`), and nothing but digits is written (`mem_decimal`).
-/

namespace CallForest.Text

theorem digitValue?_digit {d : Nat} (h : d < 10) : digitValue? (digit d) = some d := by
  decide +revert

theorem digitsValue?_append (acc : Nat) (cs ds : List Char) :
    digitsValue? acc (cs ++ ds) = (digitsValue? acc cs).bind fun n => digitsValue? n ds := by
  induction cs generalizing acc with
  | nil => rfl
  | cons c cs ih =>
      rw [List.cons_append, digitsValue?, digitsValue?]
      cases digitValue? c with
      | none => rfl
      | some d => exact ih _

theorem digitsValue?_decimal (n : Nat) : digitsValue? 0 (decimal n) = some n := by
  induction n using Nat.strongRecOn with
  | _ n ih =>
      rw [decimal]
      split
      · next hn =>
        rw [digitsValue?, digitValue?_digit hn]
        exact congrArg some (by omega)
      · next hn =>
        rw [digitsValue?_append, ih (n / 10) (by omega), Option.bind_some, digitsValue?,
          digitValue?_digit (Nat.mod_lt n (by decide))]
        exact congrArg some (by omega)

/-- Nothing but digits is written. -/
theorem mem_decimal {n : Nat} {c : Char} (h : c ∈ decimal n) : ∃ d < 10, c = digit d := by
  induction n using Nat.strongRecOn with
  | _ n ih =>
      rw [decimal] at h
      split at h
      · next hn => exact ⟨n, hn, List.mem_singleton.mp h⟩
      · next hn =>
        obtain h | h := List.mem_append.mp h
        · exact ih (n / 10) (by omega) h
        · exact ⟨n % 10, Nat.mod_lt n (by decide), List.mem_singleton.mp h⟩

theorem decimal_ne_nil (n : Nat) : decimal n ≠ [] := by
  rw [decimal]
  split
  · exact List.cons_ne_nil _ _
  · exact List.concat_ne_nil _ _

/-- A number begins with a zero only if it is zero. -/
theorem head?_decimal_ne {n : Nat} (h : n ≠ 0) : (decimal n).head? ≠ some '0' := by
  have hdigit : ∀ d < 10, digit d = '0' → d = 0 := by decide
  induction n using Nat.strongRecOn with
  | _ n ih =>
      rw [decimal]
      split
      · next hn => exact fun hhead => h (hdigit n hn (Option.some.inj hhead))
      · next hn =>
        obtain ⟨c, cs, hcs⟩ := List.exists_cons_of_ne_nil (decimal_ne_nil (n / 10))
        have hrest := ih (n / 10) (by omega) (by omega)
        rw [hcs] at hrest ⊢
        exact hrest

/-- A character that is no digit is not written. -/
theorem not_mem_decimal {c : Char} (hc : ∀ d < 10, c ≠ digit d) (n : Nat) : c ∉ decimal n := by
  intro h
  obtain ⟨d, hd, rfl⟩ := mem_decimal h
  exact hc d hd rfl

/-- The digits of a number are a word. -/
theorem solid_decimal (n : Nat) : Solid (decimal n) := by
  have hdigits : ∀ d < 10, isBlank (digit d) = false := by decide
  refine ⟨decimal_ne_nil n, fun c hc => ?_⟩
  obtain ⟨d, hd, rfl⟩ := mem_decimal hc
  exact hdigits d hd

theorem natural?_decimal (n : Nat) : natural? (decimal n) = some n := by
  have hvalue := digitsValue?_decimal n
  cases hcs : decimal n with
  | nil => exact absurd hcs (decimal_ne_nil n)
  | cons c cs =>
      have hplus : c ≠ '+' := by
        rintro rfl
        exact not_mem_decimal (by decide) n (hcs ▸ List.mem_cons_self)
      rw [natural?]
      · rwa [hcs] at hvalue
      · intro c' cs' heq
        exact absurd heq hplus

theorem decimal_inj {m n : Nat} : decimal m = decimal n ↔ m = n := by
  refine ⟨fun h => ?_, congrArg decimal⟩
  have hread := natural?_decimal m
  rw [h, natural?_decimal] at hread
  exact (Option.some.inj hread).symm

/-- A number of 32 bits is read as it was written. -/
theorem word32?_decimal (n : UInt32) : word32? (decimal n.toNat) = some n := by
  rw [word32?, naturalBelow?, natural?_decimal]
  dsimp only
  rw [if_pos n.toNat_lt, Option.map_some, UInt32.ofNat_toNat]

end CallForest.Text
