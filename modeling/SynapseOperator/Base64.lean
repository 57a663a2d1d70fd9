import SynapseOperator.Api

/-! The standard padded base64 encoding, which the Synapse controller applies to
the PostgreSQL password before it stores it in the Status and undoes before it
writes homeserver.yaml. The helpers `base64encode` and `base64decode` are not
among the sources; they are modelled as `encoding/base64`'s `StdEncoding`,
their decoding strict, with malformed text read as the empty string. The
result that matters is the round trip `base64decode_base64encode`, over every
byte string. -/
namespace SynapseOperator.Base64
open SynapseOperator.Api

/-- The symbol of a 6-bit value in the standard alphabet `A–Z a–z 0–9 + /`. -/
def encodeSymbol (v : Nat) : UInt8 :=
  if v < 26 then (65 + v).toUInt8
  else if v < 52 then (71 + v).toUInt8
  else if v < 62 then (v - 4).toUInt8
  else if v = 62 then 43 else 47

/-- The 6-bit value of a symbol of the standard alphabet. -/
def decodeSymbol (c : UInt8) : Option Nat :=
  if 65 ≤ c.toNat ∧ c.toNat ≤ 90 then some (c.toNat - 65)
  else if 97 ≤ c.toNat ∧ c.toNat ≤ 122 then some (c.toNat - 71)
  else if 48 ≤ c.toNat ∧ c.toNat ≤ 57 then some (c.toNat + 4)
  else if c = 43 then some 62
  else if c = 47 then some 63
  else none

/-- The padding byte `=`. -/
def pad : UInt8 := 61

/-- `base64encode`: every three bytes become four symbols; a final one or two
bytes are padded to four symbols with `=`. -/
def base64encode : Bytes → Bytes
  | a :: b :: c :: rest =>
    [encodeSymbol (a.toNat / 4), encodeSymbol (a.toNat % 4 * 16 + b.toNat / 16),
      encodeSymbol (b.toNat % 16 * 4 + c.toNat / 64), encodeSymbol (c.toNat % 64)] ++
      base64encode rest
  | [a, b] =>
    [encodeSymbol (a.toNat / 4), encodeSymbol (a.toNat % 4 * 16 + b.toNat / 16),
      encodeSymbol (b.toNat % 16 * 4), pad]
  | [a] => [encodeSymbol (a.toNat / 4), encodeSymbol (a.toNat % 4 * 16), pad, pad]
  | [] => []

/-- Strict decoding: groups of four symbols, padding only in the last group. -/
def decode : Bytes → Option Bytes
  | [] => some []
  | w :: x :: y :: z :: rest => do
    let a ← decodeSymbol w
    let b ← decodeSymbol x
    if z = pad then
      if rest ≠ [] then none
      else if y = pad then some [(a * 4 + b / 16).toUInt8]
      else do
        let c ← decodeSymbol y
        some [(a * 4 + b / 16).toUInt8, (b % 16 * 16 + c / 4).toUInt8]
    else do
      let c ← decodeSymbol y
      let d ← decodeSymbol z
      let tail ← decode rest
      some ([(a * 4 + b / 16).toUInt8, (b % 16 * 16 + c / 4).toUInt8,
        (c % 4 * 64 + d).toUInt8] ++ tail)
  | _ => none

/-- `base64decode`. -/
def base64decode (text : Bytes) : Bytes := (decode text).getD []

/-! ## The round trip -/

theorem decodeSymbol_encodeSymbol : ∀ v : Fin 64, decodeSymbol (encodeSymbol v) = some v := by
  decide

theorem encodeSymbol_ne_pad : ∀ v : Fin 64, encodeSymbol v ≠ pad := by
  decide

theorem ofNat_toNat (a : UInt8) : a.toNat.toUInt8 = a :=
  UInt8.toNat.inj (UInt8.toNat_ofNat_of_lt (byte_lt a))

/-- A byte split into symbols is rebuilt from them. -/
theorem symbol_value {v : Nat} (small : v < 64) : decodeSymbol (encodeSymbol v) = some v :=
  decodeSymbol_encodeSymbol ⟨v, small⟩

theorem symbol_ne_pad {v : Nat} (small : v < 64) : encodeSymbol v ≠ pad :=
  encodeSymbol_ne_pad ⟨v, small⟩

theorem decode_base64encode : ∀ bytes : Bytes, decode (base64encode bytes) = some bytes
  | a :: b :: c :: rest => by
    have := byte_lt a; have := byte_lt b; have := byte_lt c
    simp only [base64encode, List.cons_append, List.nil_append, decode,
      symbol_value (v := a.toNat / 4) (by omega), symbol_value (v := a.toNat % 4 * 16 + b.toNat / 16) (by omega),
      symbol_value (v := b.toNat % 16 * 4 + c.toNat / 64) (by omega), symbol_value (v := c.toNat % 64) (by omega),
      symbol_ne_pad (v := c.toNat % 64) (by omega), decode_base64encode rest, Option.some_bind, ↓reduceIte]
    have first : a.toNat / 4 * 4 + (a.toNat % 4 * 16 + b.toNat / 16) / 16 = a.toNat := by omega
    have second : (a.toNat % 4 * 16 + b.toNat / 16) % 16 * 16 + (b.toNat % 16 * 4 + c.toNat / 64) / 4 =
      b.toNat := by omega
    have third : (b.toNat % 16 * 4 + c.toNat / 64) % 4 * 64 + c.toNat % 64 = c.toNat := by omega
    simp [first, second, third, ofNat_toNat, decode_base64encode rest]
  | [a, b] => by
    have := byte_lt a; have := byte_lt b
    simp only [base64encode, decode,
      symbol_value (v := a.toNat / 4) (by omega), symbol_value (v := a.toNat % 4 * 16 + b.toNat / 16) (by omega),
      symbol_value (v := b.toNat % 16 * 4) (by omega), symbol_ne_pad (v := b.toNat % 16 * 4) (by omega),
      Option.some_bind, ↓reduceIte, ne_eq, not_true_eq_false]
    have first : a.toNat / 4 * 4 + (a.toNat % 4 * 16 + b.toNat / 16) / 16 = a.toNat := by omega
    have second : (a.toNat % 4 * 16 + b.toNat / 16) % 16 * 16 + b.toNat % 16 = b.toNat := by omega
    simp [first, second, ofNat_toNat]
  | [a] => by
    have := byte_lt a
    simp only [base64encode, decode, symbol_value (v := a.toNat / 4) (by omega),
      symbol_value (v := a.toNat % 4 * 16) (by omega), Option.some_bind, ↓reduceIte, ne_eq,
      not_true_eq_false]
    have first : a.toNat / 4 * 4 + a.toNat % 4 = a.toNat := by omega
    simp [first, ofNat_toNat]
  | [] => rfl

/-- `base64decode` undoes `base64encode` on every byte string. -/
theorem base64decode_base64encode (bytes : Bytes) : base64decode (base64encode bytes) = bytes := by
  simp [base64decode, decode_base64encode]

/-- Only the empty string encodes to the empty string. -/
theorem base64encode_eq_nil_iff {bytes : Bytes} : base64encode bytes = [] ↔ bytes = [] := by
  match bytes with
  | _ :: _ :: _ :: _ => simp [base64encode]
  | [_, _] => simp [base64encode]
  | [_] => simp [base64encode]
  | [] => simp [base64encode]

end SynapseOperator.Base64
