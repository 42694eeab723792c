/-
  ClusterBoot.Proofs.TokenDigits
  ────────────────────────────────
  **A TOKEN SPELLS ITS DRAW.**

  Every byte is written by two digits, one below sixteen with a zero in front
  (`encodeByte_eq_leftpad`), so the digits of byte `i` are at the places `2 * i` and
  `2 * i + 1` whatever the other bytes are (`encode_places`).  Decoding takes two
  digits at a time and undoes this exactly (`decode_eq_some_iff`), and every text of
  digits in pairs is written for some bytes (`exists_encode_eq`).  So draws and texts
  of 64 digits belong together one to one (`draws_spelled`).
-/
import ClusterBoot.Token
import Mathlib.Logic.Function.Basic

namespace ClusterBoot

namespace Text.Hex

variable {c high low : Char} {m n : Nat}

/-! ## §1. One digit. -/

/-- The lower-case hexadecimal digits. -/
def digits : List Char := "0123456789abcdef".toList

/-- The character is the digit of the number: it has this place among the digits. -/
def IsDigitOf (c : Char) (n : Nat) : Prop := digits[n]? = some c

theorem isDigitOf_digit (h : n < 16) : IsDigitOf (digit n) n := by
  have hall : ∀ n < 16, digits[n]? = some (digit n) := by decide
  exact hall n h

theorem mem_digits (h : n < 16) : digit n ∈ digits :=
  List.mem_of_getElem? (isDigitOf_digit h)

theorem IsDigitOf.lt (h : IsDigitOf c n) : n < 16 :=
  (List.getElem?_eq_some_iff.1 h).1

theorem IsDigitOf.eq (h : IsDigitOf c n) : c = digit n :=
  Option.some.inj (h.symm.trans (isDigitOf_digit h.lt))

theorem digit_of_value? (h : value? c = some n) : n < 16 ∧ digit n = c := by
  simp only [value?, Bool.and_eq_true, decide_eq_true_eq] at h
  split at h
  next hdecimal =>
    cases h
    have hlt : c.toNat - 48 < 10 := by omega
    rw [digit, if_pos hlt, Nat.add_sub_cancel' hdecimal.1, Char.ofNat_toNat]
    exact ⟨by omega, rfl⟩
  next =>
    split at h
    next hletter =>
      cases h
      have hge : ¬ c.toNat - 87 < 10 := by omega
      rw [digit, if_neg hge, show 87 + (c.toNat - 87) = c.toNat by omega, Char.ofNat_toNat]
      exact ⟨by omega, rfl⟩
    next => cases h

/-- **What has a value is a digit, and its value is its place among the digits.** -/
theorem value?_eq_some_iff : value? c = some n ↔ IsDigitOf c n := by
  constructor
  · intro h
    obtain ⟨hn, rfl⟩ := digit_of_value? h
    exact isDigitOf_digit hn
  · intro h
    have hall : ∀ n < 16, value? (digit n) = some n := by decide
    rw [h.eq]
    exact hall n h.lt

/-! ## §2. Bytes. -/

theorem encode_cons (b : UInt8) (bytes : List UInt8) :
    encode (b :: bytes) = digit (b.toNat / 16) :: digit (b.toNat % 16) :: encode bytes := rfl

theorem high_lt (b : UInt8) : b.toNat / 16 < 16 := by
  have hb : b.toNat < 256 := b.toNat_lt
  omega

theorem low_lt (b : UInt8) : b.toNat % 16 < 16 :=
  Nat.mod_lt _ (by decide)

/-- Two digits are written for the byte that they are the digits of. -/
theorem encode_ofNat_cons (hhigh : IsDigitOf high m) (hlow : IsDigitOf low n)
    (bytes : List UInt8) :
    encode (UInt8.ofNat (16 * m + n) :: bytes) = high :: low :: encode bytes := by
  have hm := hhigh.lt
  have hn := hlow.lt
  have hbyte : (UInt8.ofNat (16 * m + n)).toNat = 16 * m + n :=
    UInt8.toNat_ofNat_of_lt' (show 16 * m + n < 256 by omega)
  rw [encode_cons, hbyte, hhigh.eq, hlow.eq, show (16 * m + n) / 16 = m by omega,
    show (16 * m + n) % 16 = n by omega]

theorem length_encode (bytes : List UInt8) : (encode bytes).length = 2 * bytes.length := by
  induction bytes with
  | nil => rfl
  | cons b bytes ih => rw [encode_cons, List.length_cons, List.length_cons, ih, List.length_cons,
      Nat.mul_succ]

theorem mem_digits_of_mem_encode {bytes : List UInt8} (h : c ∈ encode bytes) : c ∈ digits := by
  obtain ⟨b, -, hc⟩ := List.mem_flatMap.1 h
  simp only [encodeByte, List.mem_cons, List.not_mem_nil, or_false] at hc
  rcases hc with rfl | rfl
  · exact mem_digits (high_lt b)
  · exact mem_digits (low_lt b)

/-- A byte is written as its number is, in two digits: one below sixteen needs a zero. -/
theorem encodeByte_eq_leftpad (b : UInt8) : encodeByte b = (ofNat b.toNat).leftpad 2 '0' := by
  have hdigit : ∀ n < 16, digit n = Nat.digitChar n := by decide
  have hhigh := high_lt b
  rw [encodeByte, hdigit _ hhigh, hdigit _ (low_lt b), ofNat]
  by_cases h : b.toNat < 16
  · rw [Nat.toDigits_of_lt_base h, Nat.div_eq_of_lt h, Nat.mod_eq_of_lt h]
    rfl
  · rw [Nat.toDigits_of_base_le (by decide) (Nat.le_of_not_lt h), Nat.toDigits_of_lt_base hhigh]
    rfl

/-- The digits of the byte at place `i` are at the places `2 * i` and `2 * i + 1`. -/
theorem encode_places {bytes : List UInt8} {i : Nat} {b : UInt8} (h : bytes[i]? = some b) :
    (encode bytes)[2 * i]? = some (digit (b.toNat / 16))
      ∧ (encode bytes)[2 * i + 1]? = some (digit (b.toNat % 16)) := by
  induction bytes generalizing i with
  | nil => cases h
  | cons a bytes ih =>
      cases i with
      | zero =>
          cases h
          exact ⟨rfl, rfl⟩
      | succ i => exact ih h

/-- **What is written is decoded again.** -/
theorem decode_encode (bytes : List UInt8) : decode (encode bytes) = some bytes := by
  induction bytes with
  | nil => rfl
  | cons b bytes ih =>
      have hhigh := value?_eq_some_iff.2 (isDigitOf_digit (high_lt b))
      have hlow := value?_eq_some_iff.2 (isDigitOf_digit (low_lt b))
      simp only [encode_cons, decode, hhigh, hlow, ih, Option.map_some, Nat.div_add_mod,
        UInt8.ofNat_toNat]

theorem encode_of_decode {cs : List Char} {bytes : List UInt8} (h : decode cs = some bytes) :
    encode bytes = cs := by
  induction cs using decode.induct generalizing bytes with
  | case1 =>
      cases h
      rfl
  | case2 => cases h
  | case3 high low r m n hlow hhigh ih =>
      rw [decode, hhigh, hlow] at h
      obtain ⟨rest, hrest, rfl⟩ := Option.map_eq_some_iff.1 h
      rw [encode_ofNat_cons (value?_eq_some_iff.1 hhigh) (value?_eq_some_iff.1 hlow), ih hrest]
  | case4 high low r hnone =>
      rw [decode] at h
      split at h
      next m n hhigh hlow => exact (hnone m n hhigh hlow).elim
      next => cases h

/-- **Nothing else is decoded.** -/
theorem decode_eq_some_iff {cs : List Char} {bytes : List UInt8} :
    decode cs = some bytes ↔ cs = encode bytes :=
  ⟨fun h => (encode_of_decode h).symm, fun h => h ▸ decode_encode bytes⟩

/-- Digits in pairs are written for some bytes. -/
theorem exists_encode_eq {cs : List Char} (hlength : cs.length = 2 * n)
    (hdigits : ∀ c ∈ cs, c ∈ digits) :
    ∃ bytes, bytes.length = n ∧ encode bytes = cs := by
  induction n generalizing cs with
  | zero => exact ⟨[], rfl, (List.length_eq_zero_iff.1 hlength).symm⟩
  | succ n ih =>
      cases cs with
      | nil => cases hlength
      | cons high cs =>
          cases cs with
          | nil =>
              rw [List.length_singleton] at hlength
              omega
          | cons low cs =>
              simp only [List.forall_mem_cons] at hdigits
              obtain ⟨hhigh, hlow, hrest⟩ := hdigits
              obtain ⟨m, hhigh⟩ := List.mem_iff_getElem?.1 hhigh
              obtain ⟨k, hlow⟩ := List.mem_iff_getElem?.1 hlow
              obtain ⟨bytes, rfl, rfl⟩ := ih (by simpa [Nat.mul_succ] using hlength) hrest
              exact ⟨_ :: bytes, rfl, encode_ofNat_cons hhigh hlow bytes⟩

end Text.Hex

/-! ## §3. Tokens. -/

/-- A text of 64 hexadecimal digits. -/
structure IsTokenText (text : String) : Prop where
  length : text.length = 64
  digits : ∀ c ∈ text.toList, c ∈ Text.Hex.digits

namespace Draw

/-- A text that spells a draw: it has 64 digits, two for each byte. -/
structure SpelledBy (draw : Draw) (text : String) : Prop extends IsTokenText text where
  /-- The high digit of byte `i` is at place `2 * i`, -/
  high : ∀ i : Fin 32, ∃ c, text.toList[2 * i.val]? = some c
    ∧ Text.Hex.IsDigitOf c (draw[i].toNat / 16)
  /-- and the low one behind it. -/
  low : ∀ i : Fin 32, ∃ c, text.toList[2 * i.val + 1]? = some c
    ∧ Text.Hex.IsDigitOf c (draw[i].toNat % 16)

variable {draw : Draw} {text : String}

theorem toList_token (draw : Draw) : draw.token.toList = Text.Hex.encode draw.toList :=
  String.toList_ofList

theorem length_token (draw : Draw) : draw.token.length = 64 := by
  rw [← String.length_toList, toList_token, Text.Hex.length_encode, Vector.length_toList]

theorem mem_token {c : Char} (h : c ∈ draw.token.toList) : c ∈ Text.Hex.digits := by
  rw [toList_token] at h
  exact Text.Hex.mem_digits_of_mem_encode h

/-- The digits of byte `i` in the token, whatever the other bytes are. -/
theorem token_places (draw : Draw) (i : Fin 32) :
    draw.token.toList[2 * i.val]? = some (Text.Hex.digit (draw[i].toNat / 16))
      ∧ draw.token.toList[2 * i.val + 1]? = some (Text.Hex.digit (draw[i].toNat % 16)) := by
  have hbyte : draw.toList[i.val]? = some draw[i] := by
    rw [Vector.getElem?_toList, Vector.getElem?_eq_getElem i.isLt]
    rfl
  rw [toList_token]
  exact Text.Hex.encode_places hbyte

theorem spelledBy_token (draw : Draw) : draw.SpelledBy draw.token where
  length := length_token draw
  digits _ := mem_token
  high i := ⟨_, (token_places draw i).1, Text.Hex.isDigitOf_digit (Text.Hex.high_lt _)⟩
  low i := ⟨_, (token_places draw i).2, Text.Hex.isDigitOf_digit (Text.Hex.low_lt _)⟩

/-- The places of the bytes are all the places there are, so only one text spells a draw. -/
theorem SpelledBy.unique {text' : String} (h : draw.SpelledBy text) (h' : draw.SpelledBy text') :
    text = text' := by
  rw [← String.toList_inj]
  refine List.ext_getElem? fun k => ?_
  by_cases hk : k < 64
  · obtain ⟨i, rfl | rfl⟩ : ∃ i : Fin 32, k = 2 * i.val ∨ k = 2 * i.val + 1 :=
      ⟨⟨k / 2, by omega⟩, by dsimp only; omega⟩
    · obtain ⟨c, hc, hdigit⟩ := h.high i
      obtain ⟨c', hc', hdigit'⟩ := h'.high i
      rw [hc, hc', hdigit.eq, hdigit'.eq]
    · obtain ⟨c, hc, hdigit⟩ := h.low i
      obtain ⟨c', hc', hdigit'⟩ := h'.low i
      rw [hc, hc', hdigit.eq, hdigit'.eq]
  · rw [List.getElem?_eq_none (by rw [String.length_toList, h.length]; omega),
      List.getElem?_eq_none (by rw [String.length_toList, h'.length]; omega)]

theorem spelledBy_iff : draw.SpelledBy text ↔ text = draw.token :=
  ⟨fun h => h.unique (spelledBy_token draw), fun h => h ▸ spelledBy_token draw⟩

/-- **The bytes of a draw are decoded from its token, and from no other text.** -/
theorem decode_eq_toList_iff :
    Text.Hex.decode text.toList = some draw.toList ↔ text = draw.token := by
  rw [Text.Hex.decode_eq_some_iff, ← toList_token, String.toList_inj]

theorem token_injective : Function.Injective token := by
  intro draw draw' h
  have hdecoded := decode_eq_toList_iff.2 h
  rw [decode_eq_toList_iff.2 rfl] at hdecoded
  exact Vector.toList_inj.1 (Option.some.inj hdecoded)

/-- Every text of 64 digits is a token. -/
theorem exists_token_eq (h : IsTokenText text) : ∃ draw : Draw, draw.token = text := by
  obtain ⟨bytes, hlength, hencode⟩ := Text.Hex.exists_encode_eq (n := 32)
    (by rw [String.length_toList, h.length]) h.digits
  refine ⟨⟨bytes.toArray, hlength⟩, ?_⟩
  rw [token, Vector.toList_mk, hencode, String.ofList_toList]

end Draw

/-- What tokens say of draws. -/
structure DrawsSpelled : Prop where
  /-- The token of a draw spells it, and is the one text that does: 64 digits, the high and
  the low one of each byte at the byte's two places. -/
  spelled : ∀ (draw : Draw) text, draw.SpelledBy text ↔ text = draw.token
  /-- Each byte is written as its number in base sixteen, padded to two digits. -/
  padded : ∀ draw : Draw, draw.token.toList
    = draw.toList.flatMap fun b => (Text.Hex.ofNat b.toNat).leftpad 2 '0'
  /-- The bytes are decoded from the token, and from no other text. -/
  decoded : ∀ (draw : Draw) text,
    Text.Hex.decode text.toList = some draw.toList ↔ text = draw.token
  /-- Different draws have different tokens. -/
  injective : Function.Injective Draw.token
  /-- Every text of 64 digits is the token of one draw, and there are no other tokens: to
  guess a token is to guess a draw. -/
  bijective : ∀ text, IsTokenText text ↔ ∃! draw : Draw, draw.token = text

/-- **Tokens spell the draws that they are made from, byte for byte.** -/
theorem draws_spelled : DrawsSpelled where
  spelled _ _ := Draw.spelledBy_iff
  padded draw := by
    rw [Draw.toList_token, Text.Hex.encode, funext Text.Hex.encodeByte_eq_leftpad]
  decoded _ _ := Draw.decode_eq_toList_iff
  injective := Draw.token_injective
  bijective text := by
    constructor
    · intro h
      obtain ⟨draw, rfl⟩ := Draw.exists_token_eq h
      exact ⟨draw, rfl, fun other hother => Draw.token_injective hother⟩
    · rintro ⟨draw, rfl, -⟩
      exact (Draw.spelledBy_token draw).toIsTokenText

/-- The draw of the bytes from 0 to 31, half of which need a zero in front. -/
theorem draws_spelled_smallBytes :
    let draw : Draw := Vector.ofFn fun i => UInt8.ofNat i.val
    let text := "000102030405060708090a0b0c0d0e0f101112131415161718191a1b1c1d1e1f"
    draw.SpelledBy text ∧ Text.Hex.decode text.toList = some draw.toList := by
  have htoken : "000102030405060708090a0b0c0d0e0f101112131415161718191a1b1c1d1e1f"
      = Draw.token (Vector.ofFn fun i => UInt8.ofNat i.val) := by decide
  exact ⟨(draws_spelled.spelled _ _).2 htoken, (draws_spelled.decoded _ _).2 htoken⟩

end ClusterBoot
