import Turnstile.Text.Utf8
/-!
  Texts and their bytes.

  1. **Reading back** (`decode?_bytes`) — a text is in its bytes.

  2. **ASCII** (`eq_of_mem_utf8EncodeChar`, `ofOctets_encode`) — a byte below 128 is written for the
     character with its number and for no other, so byte by byte a text has the ASCII characters
     that it has, and a text of such characters is what its bytes are.
-/

namespace Turnstile.Text

/-- A text is in its bytes. -/
theorem decode?_bytes (s : String) : decode? (bytes s) = some s := by
  have hbytes : (⟨(bytes s).toArray⟩ : ByteArray) = s.toByteArray :=
    calc (⟨(bytes s).toArray⟩ : ByteArray)
      _ = (bytes s).toByteArray := congrArg ByteArray.mk List.data_toByteArray.symm
      _ = s.toByteArray := String.utf8Encode_toList
  unfold decode? String.fromUTF8?
  rw [hbytes, dif_pos s.isValidUTF8]
  rfl

/-- A byte below 128 is written only for the character with its number: in the longer forms every
byte has its highest bit set. -/
theorem eq_of_mem_utf8EncodeChar {c : Char} {x : UInt8} (hx : x.toNat < 128)
    (h : x ∈ String.utf8EncodeChar c) : c = Char.ofUInt8 x := by
  have hlong {n : Nat} (hge : 128 ≤ n) (hlt : n < 256) : x ≠ UInt8.ofNat n := by
    rintro rfl
    rw [UInt8.toNat_ofNat', Nat.mod_eq_of_lt hlt] at hx
    omega
  unfold String.utf8EncodeChar at h
  dsimp only at h
  split at h
  · rename_i hone
    have hnumber : x.toNat = c.val.toNat := by
      rw [List.mem_singleton.mp h, UInt8.toNat_ofNat']
      exact Nat.mod_eq_of_lt (by omega)
    exact Char.ext (UInt32.toNat_inj.mp (hnumber.symm.trans x.toNat_toUInt32.symm))
  · exfalso
    split at h
    · simp only [List.mem_cons, List.not_mem_nil, or_false] at h
      rcases h with h | h <;> exact hlong (by omega) (by omega) h
    split at h
    · simp only [List.mem_cons, List.not_mem_nil, or_false] at h
      rcases h with h | h | h <;> exact hlong (by omega) (by omega) h
    · simp only [List.mem_cons, List.not_mem_nil, or_false] at h
      rcases h with h | h | h | h <;> exact hlong (by omega) (by omega) h

/-- Byte by byte, a text has no ASCII character that it does not have. -/
theorem mem_of_mem_ofOctets_bytes {c : Char} {s : String} (hc : c.toNat < 128)
    (h : c ∈ ofOctets (bytes s)) : c ∈ s.toList := by
  obtain ⟨x, hx, rfl⟩ := List.mem_map.mp h
  obtain ⟨d, hd, hxd⟩ := List.mem_flatMap.mp hx
  have hx128 : x.toNat < 128 := x.toNat_toUInt32 ▸ hc
  exact eq_of_mem_utf8EncodeChar hx128 hxd ▸ hd

theorem bytes_append (s t : String) : bytes (s ++ t) = bytes s ++ bytes t := by
  unfold bytes encode
  rw [String.toList_append, List.flatMap_append]

/-- An ASCII character is its one byte. -/
theorem ofOctets_utf8EncodeChar {c : Char} (hc : c.toNat < 128) :
    ofOctets (String.utf8EncodeChar c) = [c] := by
  have hone : c.val.toNat ≤ 127 := Nat.le_of_lt_succ hc
  have hbyte : (UInt8.ofNat c.val.toNat).toNat = c.val.toNat := by
    rw [UInt8.toNat_ofNat']
    exact Nat.mod_eq_of_lt (by omega)
  have hchar : Char.ofUInt8 (UInt8.ofNat c.val.toNat) = c :=
    Char.ext (UInt32.toNat_inj.mp ((UInt8.toNat_toUInt32 _).trans hbyte))
  unfold String.utf8EncodeChar
  dsimp only
  rw [if_pos hone]
  exact congrArg ([·]) hchar

/-- The bytes of a text of ASCII characters are its characters. -/
theorem ofOctets_encode {t : List Char} (h : ∀ c ∈ t, c.toNat < 128) : ofOctets (encode t) = t := by
  induction t with
  | nil => rfl
  | cons c r ih =>
    have hc := ofOctets_utf8EncodeChar (h c List.mem_cons_self)
    have hr := ih fun d hd => h d (List.mem_cons_of_mem _ hd)
    unfold ofOctets encode at hr ⊢
    unfold ofOctets at hc
    rw [List.flatMap_cons, List.map_append, hc, hr]
    rfl

end Turnstile.Text
