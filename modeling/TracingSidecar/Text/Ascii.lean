/-!
# Letters and numbers in ASCII

Case is folded for ASCII letters only, and a number is written in ASCII digits only; every other
character stands for itself.
-/

namespace TracingSidecar.Text

/-- A text with its ASCII capitals in lower case. -/
def lower (text : String) : String := String.ofList (text.toList.map Char.toLower)

/-- Equality up to the case of ASCII letters. -/
def sameIgnoringCase (a b : String) : Bool := lower a == lower b

/-- The value of a run of decimal digits, continuing a value read so far. -/
def digitsValue? (base : Nat) : List Char → Option Nat
  | [] => some base
  | c :: rest => if c.isDigit then digitsValue? (base * 10 + (c.toNat - '0'.toNat)) rest else none

/-- A natural number: one or more decimal digits and nothing else. -/
def natural? : List Char → Option Nat
  | [] => none
  | digits => digitsValue? 0 digits

theorem digitsValue?_of_forall_isDigit (base : Nat) {digits : List Char}
    (h : ∀ c ∈ digits, c.isDigit = true) :
    digitsValue? base digits = some (Nat.ofDigitChars 10 digits base) := by
  induction digits generalizing base with
  | nil => rfl
  | cons c rest ih =>
    have hrest := ih (base * 10 + (c.toNat - '0'.toNat)) fun d hd =>
      h d (List.mem_cons_of_mem _ hd)
    rw [digitsValue?, if_pos (h c List.mem_cons_self), hrest, Nat.ofDigitChars_cons, Nat.mul_comm]

/-- A number is read back from its digits. -/
theorem natural?_toDigits (n : Nat) : natural? (Nat.toDigits 10 n) = some n := by
  have hd : ∀ c ∈ Nat.toDigits 10 n, c.isDigit = true := fun c hc =>
    Nat.isDigit_of_mem_toDigits (by decide) (by decide) hc
  have h := digitsValue?_of_forall_isDigit 0 hd
  rw [Nat.ofDigitChars_ten_toDigits] at h
  unfold natural?
  split
  next hnil => exact absurd hnil Nat.toDigits_ne_nil
  next => exact h

/-- A number other than zero is written without a leading zero. -/
theorem head?_toDigits_ne {n : Nat} (h : 0 < n) : (Nat.toDigits 10 n).head? ≠ some '0' := by
  induction n using Nat.strongRecOn with
  | _ n ih =>
    rw [Nat.toDigits_eq_if (by decide)]
    split
    next hlt =>
      have hdigit : ∀ d < 10, 0 < d → d.digitChar ≠ '0' := by decide
      simpa using hdigit n hlt h
    next =>
      have hfront := ih (n / 10) (by omega) (by omega)
      cases hd : Nat.toDigits 10 (n / 10) with
      | nil => exact absurd hd Nat.toDigits_ne_nil
      | cons c rest =>
        rw [hd] at hfront
        simpa using hfront

/-- An integer: at most one sign in front of a natural number. -/
def integer? : List Char → Option Int
  | '-' :: digits => (natural? digits).map fun n => -(n : Int)
  | '+' :: digits => (natural? digits).map fun n => (n : Int)
  | digits => (natural? digits).map fun n => (n : Int)

/-- The value of a hexadecimal digit in either case. -/
def hexDigit? (c : Char) : Option Nat :=
  if c.isDigit then some (c.toNat - '0'.toNat)
  else if 'a' ≤ c ∧ c ≤ 'f' then some (c.toNat - 'a'.toNat + 10)
  else if 'A' ≤ c ∧ c ≤ 'F' then some (c.toNat - 'A'.toNat + 10)
  else none

/-- A natural number in lower-case hexadecimal digits. -/
def hexadecimal (n : Nat) : String := String.ofList (Nat.toDigits 16 n)

end TracingSidecar.Text
