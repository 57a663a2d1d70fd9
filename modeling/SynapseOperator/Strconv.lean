import SynapseOperator.Api

/-! Decimal rendering and parsing of Go's `int64`, as `strconv.FormatInt` and
`strconv.ParseInt(s, 10, 64)` do them. The PostgreSQL port travels as text
from the Secret through the Synapse Status into homeserver.yaml; the round
trip `parseInt_formatInt` is what makes that journey lossless. Parsing follows
Go's loop, with its overflow checks before each multiplication and addition,
so that an over-long numeral fails as it does in Go. -/
namespace SynapseOperator.Strconv
open SynapseOperator.Api

/-- The ASCII byte of a decimal digit. -/
def digitByte (d : Nat) : UInt8 := (48 + d).toUInt8

/-- The decimal digits of `n`, most significant first, while `fuel` exceeds `n`. -/
def decimalDigits : Nat → Nat → List Nat
  | 0, _ => []
  | fuel + 1, n => if n < 10 then [n] else decimalDigits fuel (n / 10) ++ [n % 10]

/-- The decimal rendering of a natural number: `0` for zero, no leading zero. -/
def formatUint (n : Nat) : Bytes := (decimalDigits (n + 1) n).map digitByte

/-- `strconv.FormatInt(n, 10)`. -/
def formatInt (n : BitVec 64) : Bytes :=
  if n.toInt < 0 then lit "-" ++ formatUint n.toInt.natAbs else formatUint n.toInt.toNat

/-- `strconv.ErrSyntax` and `strconv.ErrRange`. -/
inductive NumError where
  | errSyntax
  | errRange
  deriving DecidableEq, Repr

/-- `maxUint64`, the largest value `ParseUint(s, 10, 64)` returns. -/
def maxUint64 : Nat := 2 ^ 64 - 1

/-- `ParseUint`'s `cutoff` for base 10: the least value whose product by ten
overflows. -/
def cutoff : Nat := maxUint64 / 10 + 1

/-- The digit loop of `strconv.ParseUint(s, 10, 64)` from accumulator `n`. -/
def parseUintLoop : Bytes → Nat → Except NumError Nat
  | [], n => .ok n
  | c :: rest, n =>
    if 48 ≤ c.toNat ∧ c.toNat ≤ 57 then
      if cutoff ≤ n then .error .errRange
      else if maxUint64 < n * 10 + (c.toNat - 48) then .error .errRange
      else parseUintLoop rest (n * 10 + (c.toNat - 48))
    else .error .errSyntax

/-- `strconv.ParseUint(s, 10, 64)`. -/
def parseUint (s : Bytes) : Except NumError Nat :=
  if s = [] then .error .errSyntax else parseUintLoop s 0

/-- `ParseInt`'s sign: whether the numeral is negative, and what follows the sign. -/
def splitSign : Bytes → Bool × Bytes
  | [] => (false, [])
  | c :: rest => if c = 43 then (false, rest) else if c = 45 then (true, rest) else (false, c :: rest)

/-- `ParseInt`'s range check of a magnitude against `int64`, and the sign applied. -/
def int64OfMagnitude (neg : Bool) (un : Nat) : Except NumError (BitVec 64) :=
  if !neg && 2 ^ 63 ≤ un then .error .errRange
  else if neg && 2 ^ 63 < un then .error .errRange
  else .ok (BitVec.ofInt 64 (if neg then -(un : Int) else un))

/-- `strconv.ParseInt(s, 10, 64)`: an optional sign, then `ParseUint`, then
the `int64` range check. -/
def parseInt (s : Bytes) : Except NumError (BitVec 64) :=
  if s = [] then .error .errSyntax
  else (parseUint (splitSign s).2).bind (int64OfMagnitude (splitSign s).1)

/-! ## The round trip -/

/-- The value of a list of decimal digits, most significant first. -/
def digitsValue (acc : Nat) (digits : List Nat) : Nat :=
  digits.foldl (fun n d => n * 10 + d) acc

theorem le_digitsValue (acc : Nat) : ∀ digits, acc ≤ digitsValue acc digits
  | [] => le_refl _
  | d :: rest => by
    have later := le_digitsValue (acc * 10 + d) rest
    simp only [digitsValue, List.foldl_cons] at later ⊢
    omega

/-- Go's loop reads back the digits it is given, as long as every prefix stays
within `int64`'s magnitude. -/
theorem parseUintLoop_digits (acc : Nat) : ∀ digits : List Nat, (∀ d ∈ digits, d < 10) →
    digitsValue acc digits ≤ 2 ^ 63 →
    parseUintLoop (digits.map digitByte) acc = .ok (digitsValue acc digits)
  | [], _, _ => rfl
  | d :: rest, small, bounded => by
    have digit : d < 10 := small d (List.mem_cons_self d rest)
    have prefixBound := le_digitsValue (acc * 10 + d) rest
    simp only [digitsValue, List.foldl_cons] at bounded prefixBound
    have byteValue : (digitByte d).toNat = 48 + d := UInt8.toNat_ofNat_of_lt (by
      show 48 + d < 256; omega)
    simp only [List.map_cons, parseUintLoop, byteValue, cutoff, maxUint64]
    rw [if_pos (by omega), if_neg (by omega), if_neg (by omega)]
    simpa [digitsValue, Nat.add_sub_cancel_left] using
      parseUintLoop_digits (acc * 10 + d) rest (fun x mem => small x (List.mem_cons_of_mem d mem))
        (by simpa [digitsValue] using bounded)

theorem digitsValue_append_digit (acc d : Nat) (digits : List Nat) :
    digitsValue acc (digits ++ [d]) = digitsValue acc digits * 10 + d := by
  simp [digitsValue, List.foldl_append]

/-- With enough fuel, the digits are decimal digits, there is at least one,
and they read back as `n`. -/
theorem decimalDigits_spec : ∀ fuel n, n < fuel →
    (∀ d ∈ decimalDigits fuel n, d < 10) ∧ (∃ d rest, d < 10 ∧ decimalDigits fuel n = d :: rest) ∧
      digitsValue 0 (decimalDigits fuel n) = n
  | 0, _, bounded => absurd bounded (Nat.not_lt_zero _)
  | fuel + 1, n, bounded => by
    by_cases small : n < 10
    · simp only [decimalDigits, small, ↓reduceIte, List.mem_singleton, forall_eq]
      exact ⟨trivial, ⟨n, [], small, rfl⟩, by simp [digitsValue]⟩
    · obtain ⟨digits, ⟨d, rest, lead, head⟩, value⟩ :=
        decimalDigits_spec fuel (n / 10) (by omega)
      simp only [decimalDigits, small, ↓reduceIte, List.mem_append, List.mem_singleton]
      refine ⟨fun x mem => mem.elim (digits x) (fun same => by omega),
        ⟨d, rest ++ [n % 10], lead, by rw [head, List.cons_append]⟩, ?_⟩
      rw [digitsValue_append_digit, value]
      omega

theorem parseUint_formatUint {n : Nat} (bounded : n ≤ 2 ^ 63) :
    parseUint (formatUint n) = .ok n := by
  obtain ⟨digits, ⟨d, rest, -, head⟩, value⟩ := decimalDigits_spec (n + 1) n (by omega)
  unfold parseUint formatUint
  rw [if_neg (by simp [head]), parseUintLoop_digits 0 _ digits (by rwa [value]), value]

/-- A rendering starts with a digit, never with a sign. -/
theorem formatUint_head (n : Nat) : ∃ d rest, d < 10 ∧ formatUint n = digitByte d :: rest := by
  obtain ⟨-, ⟨d, rest, lead, head⟩, -⟩ := decimalDigits_spec (n + 1) n (by omega)
  exact ⟨d, rest.map digitByte, lead, by simp [formatUint, head]⟩

/-- Without a sign, a rendering is read as non-negative. -/
theorem splitSign_formatUint (n : Nat) : splitSign (formatUint n) = (false, formatUint n) := by
  obtain ⟨d, rest, digit, head⟩ := formatUint_head n
  have byteValue : (digitByte d).toNat = 48 + d := UInt8.toNat_ofNat_of_lt (by
    show 48 + d < 256; omega)
  have notPlus : digitByte d ≠ 43 := fun same => by
    have := congrArg UInt8.toNat same; rw [byteValue] at this; change 48 + d = 43 at this; omega
  have notMinus : digitByte d ≠ 45 := fun same => by
    have := congrArg UInt8.toNat same; rw [byteValue] at this; change 48 + d = 45 at this; omega
  rw [head, splitSign, if_neg notPlus, if_neg notMinus]

theorem toInt_bounds (n : BitVec 64) : -2 ^ 63 ≤ n.toInt ∧ n.toInt < 2 ^ 63 := by
  rw [BitVec.toInt_eq_toNat_bmod]
  exact ⟨by have := @Int.le_bmod n.toNat (2 ^ 64) (by decide); omega,
    by have := @Int.bmod_lt n.toNat (2 ^ 64) (by decide); omega⟩

theorem ofInt_toInt (n : BitVec 64) : BitVec.ofInt 64 n.toInt = n := by
  apply BitVec.toInt_inj.mp
  rw [BitVec.toInt_ofInt, BitVec.toInt_eq_toNat_bmod, Int.bmod_bmod]

/-- `ParseInt` reads back every `int64` that `FormatInt` writes. -/
theorem parseInt_formatInt (n : BitVec 64) : parseInt (formatInt n) = .ok n := by
  obtain ⟨lower, upper⟩ := toInt_bounds n
  unfold parseInt formatInt
  by_cases negative : n.toInt < 0
  · have sign : splitSign (lit "-" ++ formatUint n.toInt.natAbs) =
        (true, formatUint n.toInt.natAbs) := rfl
    rw [if_pos negative, if_neg (by simp [lit]), sign, parseUint_formatUint (by omega),
      Except.bind, int64OfMagnitude, if_neg (by simp), if_neg (by simp; omega), if_pos rfl]
    conv_rhs => rw [← ofInt_toInt n]
    congr 2
    omega
  · have nonempty : formatUint n.toInt.toNat ≠ [] := by
      obtain ⟨d, rest, -, head⟩ := formatUint_head n.toInt.toNat
      simp [head]
    rw [if_neg negative, if_neg nonempty, splitSign_formatUint, parseUint_formatUint (by omega),
      Except.bind, int64OfMagnitude, if_neg (by simp; omega), if_neg (by simp), if_neg (by simp)]
    conv_rhs => rw [← ofInt_toInt n]
    congr 2
    omega

end SynapseOperator.Strconv
