import Mathlib.Data.List.TakeWhile
import Mathlib.Tactic.Common
import ServiceFlow.Text.Utf8

/-!
# Texts written as bytes read back

A character takes one byte or a lead byte with up to three bytes behind it, which carry six bits of
its number each. The lead byte tells how many follow. That the strict reading lets the second byte
pass rests on what is known of a character of so many bytes: its number is not small enough for
fewer, it is no surrogate, and it is not beyond the last.
-/

namespace ServiceFlow.Text.Utf8

section Bytes

variable {n : Nat}

theorem toNat_byte (hn : n < 0x100) : (UInt8.ofNat n).toNat = n := by
  rw [UInt8.toNat_ofNat']
  omega

/-- A byte that follows carries six bits. -/
theorem isContinuation_follower (hn : n < 0x40) :
    isContinuation (UInt8.ofNat (n + 0x80)) = true := by
  simp only [isContinuation, Bool.and_eq_true, decide_eq_true_eq, UInt8.le_iff_toNat_le,
    UInt8.lt_iff_toNat_lt, UInt8.toNat_ofNat', UInt8.reduceToNat]
  omega

theorem toNat_follower (hn : n < 0x40) : (UInt8.ofNat (n + 0x80)).toNat % 0x40 = n := by
  rw [toNat_byte (by omega)]
  omega

/-- The second byte of a character is valid when it is none that its lead byte excludes. -/
theorem isSecond_follower {lead : UInt8} (hn : n < 0x40) (he0 : lead.toNat = 0xe0 → 0x20 ≤ n)
    (hed : lead.toNat = 0xed → n < 0x20) (hf0 : lead.toNat = 0xf0 → 0x10 ≤ n)
    (hf4 : lead.toNat = 0xf4 → n < 0x10) : isSecond lead (UInt8.ofNat (n + 0x80)) = true := by
  rw [isSecond, isContinuation_follower hn, Bool.true_and]
  simp only [beq_iff_eq, ← UInt8.toNat_inj, UInt8.reduceToNat]
  split_ifs with h0 hd h4 h5 <;>
    simp only [decide_eq_true_eq, UInt8.le_iff_toNat_le, UInt8.lt_iff_toNat_lt, UInt8.toNat_ofNat',
      UInt8.reduceToNat]
  · have := he0 h0
    omega
  · have := hed hd
    omega
  · have := hf0 h4
    omega
  · have := hf4 h5
    omega

end Bytes

section Lead

variable {lead second : UInt8} {others rest : List UInt8}

/-- What a byte below the first lead byte of more than one byte is read as. -/
theorem readChar_single (h : lead.toNat < 0x80) (rest : List UInt8) :
    readChar lead rest = .ok (Char.ofNat lead.toNat, 0) := by
  have hlt : lead < 0x80 := UInt8.lt_iff_toNat_lt.mpr h
  rw [readChar, if_pos hlt]

/-- The number of a character is put together from the bits of its bytes. -/
def number (lead : UInt8) (followers : List UInt8) : Nat :=
  followers.foldl (fun n b => n * 0x40 + b.toNat % 0x40) (leadBits lead)

/-- A lead byte with valid bytes behind it, as many as it wants, is read as one character. -/
theorem readChar_followers (hl : 0x80 ≤ lead.toNat)
    (hw : followers? lead = some (others.length + 1)) (hs : isSecond lead second = true)
    (ho : ∀ b ∈ others, isContinuation b = true) (rest : List UInt8) :
    readChar lead (second :: others ++ rest) =
      .ok (Char.ofNat (number lead (second :: others)), others.length + 1) := by
  have hnot : ¬ lead < 0x80 := by
    rw [UInt8.lt_iff_toNat_lt]
    exact Nat.not_lt.mpr hl
  have hfound : validFollowers lead (others.length + 1) (second :: others ++ rest) =
      second :: others := by
    have htake : (second :: others ++ rest).take (others.length + 1) = second :: others := by
      rw [← List.length_cons (a := second), List.take_left]
    rw [validFollowers, htake]
    simp only [hs, ite_true, List.takeWhile_eq_self_iff.mpr ho]
  rw [readChar, if_neg hnot, hw]
  simp only [hfound, List.length_cons, ite_true, number]

theorem followers?_eq (lead : UInt8) : followers? lead =
    if 0xc2 ≤ lead.toNat ∧ lead.toNat < 0xe0 then some 1
    else if 0xe0 ≤ lead.toNat ∧ lead.toNat < 0xf0 then some 2
    else if 0xf0 ≤ lead.toNat ∧ lead.toNat < 0xf5 then some 3 else none := by
  simp [followers?, UInt8.le_iff_toNat_le, UInt8.lt_iff_toNat_lt]

theorem leadBits_eq (lead : UInt8) : leadBits lead =
    if lead.toNat < 0xe0 then lead.toNat % 0x20
    else if lead.toNat < 0xf0 then lead.toNat % 0x10 else lead.toNat % 0x08 := by
  simp [leadBits, UInt8.lt_iff_toNat_lt]

end Lead

section Forms

variable {a b c d : Nat} (hb : b < 0x40) (hc : c < 0x40) (hd : d < 0x40) (rest : List UInt8)

include hb in
/-- A character of two bytes. -/
theorem readChar_two (ha : 2 ≤ a) (ha' : a < 0x20) :
    readChar (UInt8.ofNat (a + 0xc0)) (UInt8.ofNat (b + 0x80) :: rest) =
      .ok (Char.ofNat (a * 0x40 + b), 1) := by
  have hlead : (UInt8.ofNat (a + 0xc0)).toNat = a + 0xc0 := toNat_byte (by omega)
  have hw : followers? (UInt8.ofNat (a + 0xc0)) = some 1 := by
    rw [followers?_eq, hlead, if_pos (by omega)]
  have hs : isSecond (UInt8.ofNat (a + 0xc0)) (UInt8.ofNat (b + 0x80)) = true :=
    isSecond_follower hb (by omega) (by omega) (by omega) (by omega)
  have hnumber : number (UInt8.ofNat (a + 0xc0)) [UInt8.ofNat (b + 0x80)] = a * 0x40 + b := by
    simp only [number, List.foldl_cons, List.foldl_nil, toNat_follower hb, leadBits_eq, hlead]
    split_ifs <;> omega
  have hread := readChar_followers (by omega) hw hs (List.forall_mem_nil _) rest
  rwa [hnumber] at hread

include hb hc in
/-- A character of three bytes. -/
theorem readChar_three (ha : a < 0x10) (h0 : a = 0 → 0x20 ≤ b) (hd : a = 0xd → b < 0x20) :
    readChar (UInt8.ofNat (a + 0xe0)) (UInt8.ofNat (b + 0x80) :: UInt8.ofNat (c + 0x80) :: rest) =
      .ok (Char.ofNat ((a * 0x40 + b) * 0x40 + c), 2) := by
  have hlead : (UInt8.ofNat (a + 0xe0)).toNat = a + 0xe0 := toNat_byte (by omega)
  have hw : followers? (UInt8.ofNat (a + 0xe0)) = some 2 := by
    rw [followers?_eq, hlead, if_neg (by omega), if_pos (by omega)]
  have hs : isSecond (UInt8.ofNat (a + 0xe0)) (UInt8.ofNat (b + 0x80)) = true :=
    isSecond_follower hb (by omega) (by omega) (by omega) (by omega)
  have hnumber : number (UInt8.ofNat (a + 0xe0)) [UInt8.ofNat (b + 0x80), UInt8.ofNat (c + 0x80)] =
      (a * 0x40 + b) * 0x40 + c := by
    simp only [number, List.foldl_cons, List.foldl_nil, toNat_follower hb, toNat_follower hc,
      leadBits_eq, hlead]
    split_ifs <;> omega
  have hothers : ∀ x ∈ [UInt8.ofNat (c + 0x80)], isContinuation x = true :=
    List.forall_mem_singleton.mpr (isContinuation_follower hc)
  have hread := readChar_followers (by omega) hw hs hothers rest
  rwa [hnumber] at hread

include hb hc hd in
/-- A character of four bytes. -/
theorem readChar_four (ha : a < 5) (h0 : a = 0 → 0x10 ≤ b) (h4 : a = 4 → b < 0x10) :
    readChar (UInt8.ofNat (a + 0xf0)) (UInt8.ofNat (b + 0x80) :: UInt8.ofNat (c + 0x80) ::
        UInt8.ofNat (d + 0x80) :: rest) =
      .ok (Char.ofNat (((a * 0x40 + b) * 0x40 + c) * 0x40 + d), 3) := by
  have hlead : (UInt8.ofNat (a + 0xf0)).toNat = a + 0xf0 := toNat_byte (by omega)
  have hw : followers? (UInt8.ofNat (a + 0xf0)) = some 3 := by
    rw [followers?_eq, hlead, if_neg (by omega), if_neg (by omega), if_pos (by omega)]
  have hs : isSecond (UInt8.ofNat (a + 0xf0)) (UInt8.ofNat (b + 0x80)) = true :=
    isSecond_follower hb (by omega) (by omega) (by omega) (by omega)
  have hnumber : number (UInt8.ofNat (a + 0xf0))
      [UInt8.ofNat (b + 0x80), UInt8.ofNat (c + 0x80), UInt8.ofNat (d + 0x80)] =
        ((a * 0x40 + b) * 0x40 + c) * 0x40 + d := by
    simp only [number, List.foldl_cons, List.foldl_nil, toNat_follower hb, toNat_follower hc,
      toNat_follower hd, leadBits_eq, hlead]
    split_ifs <;> omega
  have hothers : ∀ x ∈ [UInt8.ofNat (c + 0x80), UInt8.ofNat (d + 0x80)],
      isContinuation x = true :=
    List.forall_mem_cons.mpr ⟨isContinuation_follower hc,
      List.forall_mem_singleton.mpr (isContinuation_follower hd)⟩
  have hread := readChar_followers (by omega) hw hs hothers rest
  rwa [hnumber] at hread

end Forms

/-- The bytes of a character are read as that character, whatever follows them. -/
theorem exists_readChar (c : Char) : ∃ lead tail, String.utf8EncodeChar c = lead :: tail ∧
    ∀ rest, readChar lead (tail ++ rest) = .ok (c, tail.length) := by
  have hrange : c.toNat < 0xd800 ∨ 0xe000 ≤ c.toNat ∧ c.toNat < 0x110000 := c.valid
  have hchar {n : Nat} (h : n = c.toNat) : Char.ofNat n = c := h ▸ Char.ofNat_toNat c
  have hv : c.val.toNat = c.toNat := rfl
  unfold String.utf8EncodeChar
  simp only [hv]
  split_ifs with h1 h2 h3
  · have hlead : (UInt8.ofNat c.toNat).toNat = c.toNat := toNat_byte (by omega)
    refine ⟨_, [], rfl, fun rest => ?_⟩
    rw [readChar_single (by omega), hchar hlead]
    rfl
  · refine ⟨_, [_], rfl, fun rest => ?_⟩
    rw [List.singleton_append, readChar_two (by omega) rest (by omega) (by omega),
      hchar (by omega)]
    rfl
  · refine ⟨_, [_, _], rfl, fun rest => ?_⟩
    have hread := readChar_three (a := c.toNat / 4096 % 16) (b := c.toNat / 64 % 64)
      (c := c.toNat % 64) (by omega) (by omega) rest (by omega) (by omega) (by omega)
    rw [hchar (by omega)] at hread
    exact hread
  · refine ⟨_, [_, _, _], rfl, fun rest => ?_⟩
    have hread := readChar_four (a := c.toNat / 262144 % 8) (b := c.toNat / 4096 % 64)
      (c := c.toNat / 64 % 64) (d := c.toNat % 64) (by omega) (by omega) (by omega) rest (by omega)
      (by omega) (by omega)
    rw [hchar (by omega)] at hread
    exact hread

/-- Listing the bytes of an array from a position on puts them behind those that were listed. -/
theorem toList_loop (bytes : ByteArray) (i : Nat) (listed : List UInt8) :
    ByteArray.toList.loop bytes i listed = listed.reverse ++ bytes.data.toList.drop i := by
  fun_induction ByteArray.toList.loop bytes i listed with
  | case1 i listed hlt ih =>
      have hlength : i < bytes.data.toList.length := hlt
      have hget : bytes.get! i = bytes.data.toList[i] := getElem!_pos bytes.data i hlt
      rw [ih, List.drop_eq_getElem_cons hlength, hget, List.reverse_cons, List.append_assoc,
        List.singleton_append]
  | case2 i listed hlt =>
      rw [List.drop_eq_nil_of_le (Nat.le_of_not_lt hlt), List.append_nil]

/-- The bytes of a text are those of its characters. -/
theorem encode_eq (s : String) : encode s = s.toList.flatMap String.utf8EncodeChar := by
  rw [encode, String.toUTF8_eq_toByteArray, ← String.utf8Encode_toList, ByteArray.toList,
    toList_loop, List.utf8Encode, List.toList_data_toByteArray]
  rfl

/-- Characters that are written as bytes read back, wherever reading started. -/
theorem decodeFrom_encode (cs : List Char) (position : Nat) :
    decodeFrom position (cs.flatMap String.utf8EncodeChar) = .ok cs := by
  induction cs generalizing position with
  | nil => simp [decodeFrom]
  | cons c cs ih =>
      obtain ⟨lead, tail, hbytes, hread⟩ := exists_readChar c
      rw [List.flatMap_cons, hbytes, List.cons_append, decodeFrom, hread]
      simp only [List.drop_left, ih]
      rfl

/-- A text that is written as bytes reads back. -/
theorem decode_encode (s : String) : decode (encode s) = .ok s := by
  rw [decode, encode_eq, decodeFrom_encode]
  exact congrArg Except.ok String.ofList_toList

end ServiceFlow.Text.Utf8
