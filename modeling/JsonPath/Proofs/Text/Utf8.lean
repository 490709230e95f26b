import JsonPath.Proofs.Outcome
import JsonPath.Text.Utf8
import Mathlib.Data.List.TakeDrop

namespace JsonPath

namespace Utf8

def encode (text : List Char) : List UInt8 := text.flatMap String.utf8EncodeChar

theorem lead?_eq (b : UInt8) : lead? b =
    if b.toNat < 0x80 then some (b.toNat, 0, 0x80, 0xBF)
    else if b.toNat < 0xC2 then none
    else if b.toNat < 0xE0 then some (b.toNat - 0xC0, 1, 0x80, 0xBF)
    else if b.toNat = 0xE0 then some (0, 2, 0xA0, 0xBF)
    else if b.toNat = 0xED then some (0xD, 2, 0x80, 0x9F)
    else if b.toNat < 0xF0 then some (b.toNat - 0xE0, 2, 0x80, 0xBF)
    else if b.toNat = 0xF0 then some (0, 3, 0x90, 0xBF)
    else if b.toNat = 0xF4 then some (4, 3, 0x80, 0x8F)
    else if b.toNat < 0xF4 then some (b.toNat - 0xF0, 3, 0x80, 0xBF)
    else none := by
  simp only [lead?, UInt8.lt_iff_toNat_lt, ← UInt8.toNat_inj]
  rfl

theorem lead?_three {b : UInt8} (range : 0xE0 ≤ b.toNat ∧ b.toNat < 0xF0) : lead? b =
    some (b.toNat - 0xE0, 2, if b.toNat = 0xE0 then 0xA0 else 0x80,
      if b.toNat = 0xED then 0x9F else 0xBF) := by
  rw [lead?_eq, if_neg (by omega), if_neg (by omega), if_neg (by omega)]
  by_cases long : b.toNat = 0xE0
  · simp [long]
  · by_cases surrogate : b.toNat = 0xED
    · simp [surrogate]
    · rw [if_neg long, if_neg surrogate, if_pos (by omega), if_neg long, if_neg surrogate]

theorem lead?_four {b : UInt8} (range : 0xF0 ≤ b.toNat ∧ b.toNat ≤ 0xF4) : lead? b =
    some (b.toNat - 0xF0, 3, if b.toNat = 0xF0 then 0x90 else 0x80,
      if b.toNat = 0xF4 then 0x8F else 0xBF) := by
  rw [lead?_eq, if_neg (by omega), if_neg (by omega), if_neg (by omega), if_neg (by omega),
    if_neg (by omega), if_neg (by omega)]
  by_cases long : b.toNat = 0xF0
  · simp [long]
  · by_cases beyond : b.toNat = 0xF4
    · simp [beyond]
    · rw [if_neg long, if_neg beyond, if_pos (by omega), if_neg long, if_neg beyond]

theorem lead?_cases {b : UInt8} {bits count : Nat} {low high : UInt8}
    (lead : lead? b = some (bits, count, low, high)) :
    (b.toNat < 0x80 ∧ bits = b.toNat ∧ count = 0) ∨
    ((0xC2 ≤ b.toNat ∧ b.toNat < 0xE0) ∧ bits = b.toNat - 0xC0 ∧ count = 1 ∧ low = 0x80 ∧ high = 0xBF) ∨
    ((0xE0 ≤ b.toNat ∧ b.toNat < 0xF0) ∧ bits = b.toNat - 0xE0 ∧ count = 2 ∧
      low = (if b.toNat = 0xE0 then 0xA0 else 0x80) ∧ high = if b.toNat = 0xED then 0x9F else 0xBF) ∨
    ((0xF0 ≤ b.toNat ∧ b.toNat ≤ 0xF4) ∧ bits = b.toNat - 0xF0 ∧ count = 3 ∧
      low = (if b.toNat = 0xF0 then 0x90 else 0x80) ∧ high = if b.toNat = 0xF4 then 0x8F else 0xBF) := by
  have fields {bits' count' : Nat} {low' high' : UInt8}
      (same : some (bits', count', low', high') = some (bits, count, low, high)) :
      bits' = bits ∧ count' = count ∧ low' = low ∧ high' = high := by
    simpa only [Option.some.injEq, Prod.mk.injEq] using same
  by_cases one : b.toNat < 0x80
  · rw [lead?_eq, if_pos one] at lead
    obtain ⟨rfl, rfl, -⟩ := fields lead
    exact .inl ⟨one, rfl, rfl⟩
  by_cases noLead : b.toNat < 0xC2
  · rw [lead?_eq, if_neg one, if_pos noLead] at lead
    cases lead
  by_cases two : b.toNat < 0xE0
  · rw [lead?_eq, if_neg one, if_neg noLead, if_pos two] at lead
    obtain ⟨rfl, rfl, rfl, rfl⟩ := fields lead
    exact .inr (.inl ⟨by omega, rfl, rfl, rfl, rfl⟩)
  by_cases three : b.toNat < 0xF0
  · have range : 0xE0 ≤ b.toNat ∧ b.toNat < 0xF0 := by omega
    rw [lead?_three range] at lead
    obtain ⟨rfl, rfl, rfl, rfl⟩ := fields lead
    exact .inr (.inr (.inl ⟨range, rfl, rfl, rfl, rfl⟩))
  by_cases four : b.toNat ≤ 0xF4
  · have range : 0xF0 ≤ b.toNat ∧ b.toNat ≤ 0xF4 := by omega
    rw [lead?_four range] at lead
    obtain ⟨rfl, rfl, rfl, rfl⟩ := fields lead
    exact .inr (.inr (.inr ⟨range, rfl, rfl, rfl, rfl⟩))
  · rw [lead?_eq, if_neg one, if_neg noLead, if_neg two, if_neg (by omega), if_neg (by omega),
      if_neg three, if_neg (by omega), if_neg (by omega), if_neg (by omega)] at lead
    cases lead

def Between (low high : UInt8) (b : UInt8) : Prop := low.toNat ≤ b.toNat ∧ b.toNat ≤ high.toNat

theorem finish_zero {first : Nat} {seen bytes rest : List UInt8} {bits : Nat} {low high : UInt8}
    {c : Char} :
    finish first seen bits 0 low high bytes = .ok (c, rest) ↔ Char.ofNat bits = c ∧ bytes = rest := by
  rw [finish, Except.ok.injEq, Prod.mk.injEq]

theorem finish_succ {first : Nat} {seen bytes : List UInt8} {bits count : Nat} {low high : UInt8}
    {r : Char × List UInt8} :
    finish first seen bits (count + 1) low high bytes = .ok r ↔
      ∃ b rest, bytes = b :: rest ∧ Between low high b ∧
        finish first (b :: seen) (bits * 64 + (b.toNat - 0x80)) count 0x80 0xBF rest = .ok r := by
  cases bytes with
  | nil => simp [finish]
  | cons b bytes =>
    rw [finish]
    simp only [UInt8.le_iff_toNat_le]
    by_cases inside : low.toNat ≤ b.toNat ∧ b.toNat ≤ high.toNat <;> simp [inside, Between]

theorem toNat_val_ofNat {n : Nat} (valid : n.isValidChar) : (Char.ofNat n).val.toNat = n := by
  rw [Char.ofNat, dif_pos valid]
  rfl

theorem byte_eq {b : UInt8} {n : Nat} (same : n = b.toNat) : UInt8.ofNat n = b := by
  rw [same, UInt8.ofNat_toNat]

theorem encode_one {b : UInt8} (small : b.toNat < 0x80) :
    String.utf8EncodeChar (Char.ofNat b.toNat) = [b] := by
  have valid : b.toNat.isValidChar := .inl (by omega)
  have low : b.toNat ≤ 127 := by omega
  simp [String.utf8EncodeChar, toNat_val_ofNat valid, low]

theorem encode_two {b b₁ : UInt8} (lead : 0xC2 ≤ b.toNat ∧ b.toNat < 0xE0)
    (next : Between 0x80 0xBF b₁) :
    String.utf8EncodeChar (Char.ofNat ((b.toNat - 0xC0) * 64 + (b₁.toNat - 0x80))) = [b, b₁] := by
  simp only [Between, UInt8.toNat_ofNat] at next
  have valid : ((b.toNat - 0xC0) * 64 + (b₁.toNat - 0x80)).isValidChar := .inl (by omega)
  simp only [String.utf8EncodeChar, toNat_val_ofNat valid]
  rw [if_neg (by omega), if_pos (by omega)]
  exact congrArg₂ List.cons (byte_eq (by omega)) (congrArg₂ List.cons (byte_eq (by omega)) rfl)

theorem encode_three {b b₁ b₂ : UInt8} (lead : 0xE0 ≤ b.toNat ∧ b.toNat < 0xF0)
    (next : Between 0x80 0xBF b₁) (notLong : b.toNat = 0xE0 → 0xA0 ≤ b₁.toNat)
    (notSurrogate : b.toNat = 0xED → b₁.toNat ≤ 0x9F) (last : Between 0x80 0xBF b₂) :
    String.utf8EncodeChar
      (Char.ofNat (((b.toNat - 0xE0) * 64 + (b₁.toNat - 0x80)) * 64 + (b₂.toNat - 0x80))) =
        [b, b₁, b₂] := by
  simp only [Between, UInt8.toNat_ofNat] at next last
  have valid : (((b.toNat - 0xE0) * 64 + (b₁.toNat - 0x80)) * 64 + (b₂.toNat - 0x80)).isValidChar := by
    unfold Nat.isValidChar
    omega
  simp only [String.utf8EncodeChar, toNat_val_ofNat valid]
  rw [if_neg (by omega), if_neg (by omega), if_pos (by omega)]
  exact congrArg₂ List.cons (byte_eq (by omega))
    (congrArg₂ List.cons (byte_eq (by omega)) (congrArg₂ List.cons (byte_eq (by omega)) rfl))

theorem encode_four {b b₁ b₂ b₃ : UInt8} (lead : 0xF0 ≤ b.toNat ∧ b.toNat ≤ 0xF4)
    (next : Between 0x80 0xBF b₁) (notLong : b.toNat = 0xF0 → 0x90 ≤ b₁.toNat)
    (notBeyond : b.toNat = 0xF4 → b₁.toNat ≤ 0x8F) (third : Between 0x80 0xBF b₂)
    (last : Between 0x80 0xBF b₃) :
    String.utf8EncodeChar
      (Char.ofNat ((((b.toNat - 0xF0) * 64 + (b₁.toNat - 0x80)) * 64 + (b₂.toNat - 0x80)) * 64 +
        (b₃.toNat - 0x80))) = [b, b₁, b₂, b₃] := by
  simp only [Between, UInt8.toNat_ofNat] at next third last
  have valid : ((((b.toNat - 0xF0) * 64 + (b₁.toNat - 0x80)) * 64 + (b₂.toNat - 0x80)) * 64 +
      (b₃.toNat - 0x80)).isValidChar := by
    unfold Nat.isValidChar
    omega
  simp only [String.utf8EncodeChar, toNat_val_ofNat valid]
  rw [if_neg (by omega), if_neg (by omega), if_neg (by omega)]
  exact congrArg₂ List.cons (byte_eq (by omega)) (congrArg₂ List.cons (byte_eq (by omega))
    (congrArg₂ List.cons (byte_eq (by omega)) (congrArg₂ List.cons (byte_eq (by omega)) rfl)))

theorem between_three {b b₁ : UInt8} (next : Between (if b.toNat = 0xE0 then 0xA0 else 0x80)
    (if b.toNat = 0xED then 0x9F else 0xBF) b₁) :
    Between 0x80 0xBF b₁ ∧ (b.toNat = 0xE0 → 0xA0 ≤ b₁.toNat) ∧ (b.toNat = 0xED → b₁.toNat ≤ 0x9F) := by
  obtain ⟨lower, upper⟩ := next
  refine ⟨⟨Nat.le_trans ?_ lower, Nat.le_trans upper ?_⟩, fun long => ?_, fun surrogate => ?_⟩
  · split <;> decide
  · split <;> decide
  · rwa [if_pos long] at lower
  · rwa [if_pos surrogate] at upper

theorem between_four {b b₁ : UInt8} (next : Between (if b.toNat = 0xF0 then 0x90 else 0x80)
    (if b.toNat = 0xF4 then 0x8F else 0xBF) b₁) :
    Between 0x80 0xBF b₁ ∧ (b.toNat = 0xF0 → 0x90 ≤ b₁.toNat) ∧ (b.toNat = 0xF4 → b₁.toNat ≤ 0x8F) := by
  obtain ⟨lower, upper⟩ := next
  refine ⟨⟨Nat.le_trans ?_ lower, Nat.le_trans upper ?_⟩, fun long => ?_, fun beyond => ?_⟩
  · split <;> decide
  · split <;> decide
  · rwa [if_pos long] at lower
  · rwa [if_pos beyond] at upper

theorem char_sound {first : Nat} {b : UInt8} {bits count : Nat} {low high : UInt8}
    {bytes rest : List UInt8} {c : Char} (lead : lead? b = some (bits, count, low, high))
    (run : finish first [b] bits count low high bytes = .ok (c, rest)) :
    b :: bytes = String.utf8EncodeChar c ++ rest := by
  rcases lead?_cases lead with ⟨small, same⟩ | ⟨range, same⟩ | ⟨range, same⟩ | ⟨range, same⟩
  · rw [same.1, same.2, finish_zero] at run
    rw [← run.1, run.2, encode_one small, List.singleton_append]
  · rw [same.1, same.2.1, same.2.2.1, same.2.2.2] at run
    obtain ⟨b₁, _, rfl, next, run⟩ := finish_succ.mp run
    obtain ⟨rfl, rfl⟩ := finish_zero.mp run
    rw [encode_two range next]
    rfl
  · rw [same.1, same.2.1, same.2.2.1, same.2.2.2] at run
    obtain ⟨b₁, _, rfl, next, run⟩ := finish_succ.mp run
    obtain ⟨b₂, _, rfl, third, run⟩ := finish_succ.mp run
    obtain ⟨rfl, rfl⟩ := finish_zero.mp run
    obtain ⟨follows, notLong, notSurrogate⟩ := between_three next
    rw [encode_three range follows notLong notSurrogate third]
    rfl
  · rw [same.1, same.2.1, same.2.2.1, same.2.2.2] at run
    obtain ⟨b₁, _, rfl, next, run⟩ := finish_succ.mp run
    obtain ⟨b₂, _, rfl, third, run⟩ := finish_succ.mp run
    obtain ⟨b₃, _, rfl, last, run⟩ := finish_succ.mp run
    obtain ⟨rfl, rfl⟩ := finish_zero.mp run
    obtain ⟨follows, notLong, notBeyond⟩ := between_four next
    rw [encode_four range follows notLong notBeyond third last]
    rfl

theorem toNat_byte {n : Nat} (small : n < 0x100) : (UInt8.ofNat n).toNat = n := by
  simp [UInt8.toNat_ofNat', Nat.mod_eq_of_lt small]

theorem between_byte {n : Nat} {low high : UInt8} (small : n < 0x100)
    (inside : low.toNat ≤ n ∧ n ≤ high.toNat) : Between low high (UInt8.ofNat n) := by
  rwa [Between, toNat_byte small]

theorem lead?_byte_three {n : Nat} (small : n < 0x10) : lead? (UInt8.ofNat (n + 224)) =
    some (n, 2, if n = 0 then 0xA0 else 0x80, if n = 13 then 0x9F else 0xBF) := by
  rw [lead?_three (by rw [toNat_byte (by omega)]; omega), toNat_byte (by omega)]
  simp

theorem lead?_byte_four {n : Nat} (small : n ≤ 4) : lead? (UInt8.ofNat (n + 240)) =
    some (n, 3, if n = 0 then 0x90 else 0x80, if n = 4 then 0x8F else 0xBF) := by
  rw [lead?_four (by rw [toNat_byte (by omega)]; omega), toNat_byte (by omega)]
  simp

theorem char_complete (c : Char) (first : Nat) (rest : List UInt8) :
    ∃ b bytes bits count low high, String.utf8EncodeChar c ++ rest = b :: bytes ∧
      lead? b = some (bits, count, low, high) ∧
      finish first [b] bits count low high bytes = .ok (c, rest) := by
  have valid : c.val.toNat.isValidChar := c.valid
  have self {n : Nat} (same : n = c.val.toNat) : Char.ofNat n = c := by
    rw [same]
    exact Char.ofNat_toNat c
  unfold Nat.isValidChar at valid
  unfold String.utf8EncodeChar
  generalize c.val.toNat = v at valid self
  simp only
  split
  · refine ⟨_, _, v, 0, 0x80, 0xBF, rfl, ?_, finish_zero.mpr ⟨self rfl, rfl⟩⟩
    rw [lead?_eq, toNat_byte (by omega), if_pos (by omega)]
  -- The bits that follow go to bytes of their own, each below 64.
  have following {n : Nat} (small : n < 64) : Between 0x80 0xBF (UInt8.ofNat (n + 128)) :=
    between_byte (by omega) ⟨by simp, by simp; omega⟩
  split
  · refine ⟨_, _, v / 64 % 32, 1, 0x80, 0xBF, rfl, ?_, finish_succ.mpr ⟨_, _, rfl, following (by omega),
      finish_zero.mpr ⟨self ?_, rfl⟩⟩⟩
    · rw [lead?_eq, toNat_byte (by omega), if_neg (by omega), if_neg (by omega), if_pos (by omega)]
      simp
    · rw [toNat_byte (by omega)]
      omega
  split
  · refine ⟨_, _, _, 2, _, _, rfl, lead?_byte_three (by omega), finish_succ.mpr ⟨_, _, rfl,
      between_byte (by omega) ⟨?_, ?_⟩, finish_succ.mpr ⟨_, _, rfl, following (by omega),
      finish_zero.mpr ⟨self ?_, rfl⟩⟩⟩⟩
    · split
      · simp
        omega
      · simp
    · split
      · simp
        omega
      · simp
        omega
    · rw [toNat_byte (by omega), toNat_byte (by omega)]
      omega
  · refine ⟨_, _, _, 3, _, _, rfl, lead?_byte_four (by omega), finish_succ.mpr ⟨_, _, rfl,
      between_byte (by omega) ⟨?_, ?_⟩, finish_succ.mpr ⟨_, _, rfl, following (by omega),
      finish_succ.mpr ⟨_, _, rfl, following (by omega), finish_zero.mpr ⟨self ?_, rfl⟩⟩⟩⟩⟩
    · split
      · simp
        omega
      · simp
    · split
      · simp
        omega
      · simp
        omega
    · rw [toNat_byte (by omega), toNat_byte (by omega), toNat_byte (by omega)]
      omega

theorem encode_cons (c : Char) (text : List Char) :
    encode (c :: text) = String.utf8EncodeChar c ++ encode text := rfl

theorem length_utf8EncodeChar_pos (c : Char) : 0 < (String.utf8EncodeChar c).length := by
  obtain ⟨b, bytes, _, _, _, _, same, -⟩ := char_complete c 0 []
  rw [List.append_nil] at same
  simp [same]

theorem nil_eq_encode_iff {text : List Char} : [] = encode text ↔ text = [] := by
  cases text with
  | nil => simp [encode]
  | cons c text =>
    have nonempty := length_utf8EncodeChar_pos c
    rw [encode_cons, eq_comm, List.append_eq_nil_iff]
    simp only [← List.length_eq_zero_iff, List.length_cons]
    omega

theorem decodeFrom_eq_ok_iff {fuel first : Nat} {bytes : List UInt8} {text : List Char}
    (enough : bytes.length ≤ fuel) : decodeFrom fuel first bytes = .ok text ↔ bytes = encode text := by
  induction fuel generalizing first bytes text with
  | zero =>
    obtain rfl := List.length_eq_zero_iff.mp (Nat.le_zero.mp enough)
    rw [nil_eq_encode_iff, decodeFrom, Except.ok.injEq, eq_comm]
  | succ fuel ih =>
    cases bytes with
    | nil => rw [nil_eq_encode_iff, decodeFrom, Except.ok.injEq, eq_comm]; simp
    | cons b bytes =>
      have shorter {c : Char} {rest : List UInt8} (same : b :: bytes = String.utf8EncodeChar c ++ rest) :
          rest.length ≤ fuel := by
        have lengths := congrArg List.length same
        have nonempty := length_utf8EncodeChar_pos c
        simp only [List.length_cons, List.length_append] at lengths enough
        omega
      rw [decodeFrom]
      constructor
      · intro run
        split at run
        · contradiction
        · next lead =>
          obtain ⟨⟨c, rest⟩, char, run⟩ := Except.bind_eq_ok.mp run
          obtain ⟨cs, later, run⟩ := Except.bind_eq_ok.mp run
          cases run
          have same := char_sound lead char
          rw [same, encode_cons, (ih (shorter same)).mp later]
      · intro same
        cases text with
        | nil => contradiction
        | cons c cs =>
          rw [encode_cons] at same
          obtain ⟨_, _, bits, count, low, high, front, lead, char⟩ := char_complete c first (encode cs)
          obtain ⟨rfl, rfl⟩ := List.cons.inj (same.trans front)
          simp [lead, char, (ih (shorter same)).mpr rfl, bind, Except.bind, pure, Except.pure]

theorem decode_eq_ok_iff {bytes : List UInt8} {text : String} :
    decode bytes = .ok text ↔ bytes = encode text.toList := by
  have decoded : decodeFrom bytes.length 0 bytes = .ok text.toList ↔ bytes = encode text.toList :=
    decodeFrom_eq_ok_iff (Nat.le_refl _)
  rw [decode, Except.map_eq_ok, ← decoded]
  constructor
  · rintro ⟨cs, run, rfl⟩
    rwa [String.toList_ofList]
  · exact fun run => ⟨text.toList, run, String.ofList_toList⟩

end Utf8

end JsonPath
