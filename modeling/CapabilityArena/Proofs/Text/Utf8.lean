/-!
The UTF-8 form of text as a list of bytes. It determines the text, and where all bytes are below 128 there
is one byte for each character, with the number of the character.
-/

namespace CapabilityArena.Text

variable {c : Char} {cs : List Char}

theorem utf8_eq_flatMap (s : String) : s.toUTF8.data.toList = s.toList.flatMap String.utf8EncodeChar := by
  have hencoded := String.toByteArray_ofList (l := s.toList)
  rw [String.ofList_toList] at hencoded
  rw [String.toUTF8, hencoded, List.utf8Encode, List.toList_data_toByteArray]

theorem eq_of_utf8_eq {s t : String} (hutf8 : s.toUTF8.data.toList = t.toUTF8.data.toList) : s = t :=
  String.toByteArray_inj.1 (ByteArray.ext (Array.toList_inj.1 hutf8))

theorem utf8EncodeChar_of_lt (hascii : c.toNat < 128) :
    String.utf8EncodeChar c = [UInt8.ofNat c.toNat] := by
  have hval : c.val.toNat ≤ 127 := Nat.le_of_lt_succ hascii
  rw [String.utf8EncodeChar, if_pos hval]
  rfl

/-- Beyond 128 the first byte of a character is no number of a character below 128. -/
theorem exists_high_byte (hhigh : 128 ≤ c.toNat) : ∃ b ∈ String.utf8EncodeChar c, 128 ≤ b.toNat := by
  have hval : ¬ c.val.toNat ≤ 127 := Nat.not_le.2 hhigh
  rw [String.utf8EncodeChar, if_neg hval]
  split
  · refine ⟨_, List.mem_cons_self, ?_⟩
    rw [UInt8.toNat_ofNat']
    omega
  split
  · refine ⟨_, List.mem_cons_self, ?_⟩
    rw [UInt8.toNat_ofNat']
    omega
  · refine ⟨_, List.mem_cons_self, ?_⟩
    rw [UInt8.toNat_ofNat']
    omega

theorem ascii_of_utf8 {s : String} (hbytes : ∀ b ∈ s.toUTF8.data.toList, b.toNat < 128) :
    ∀ c ∈ s.toList, c.toNat < 128 := by
  intro c hc
  refine Nat.lt_of_not_le fun hhigh => ?_
  obtain ⟨b, hb, hlarge⟩ := exists_high_byte hhigh
  rw [utf8_eq_flatMap] at hbytes
  have hsmall := hbytes b (List.mem_flatMap.2 ⟨c, hc, hb⟩)
  omega

theorem map_flatMap_of_ascii (hascii : ∀ c ∈ cs, c.toNat < 128) :
    ((cs.flatMap String.utf8EncodeChar).map fun b => Char.ofNat b.toNat) = cs := by
  induction cs with
  | nil => rfl
  | cons c cs ih =>
    have hc := hascii c List.mem_cons_self
    rw [List.flatMap_cons, utf8EncodeChar_of_lt hc, List.map_append,
      ih fun d hd => hascii d (List.mem_cons_of_mem c hd), List.map_singleton, UInt8.toNat_ofNat',
      Nat.mod_eq_of_lt (by omega), Char.ofNat_toNat, List.singleton_append]

/-- Where there is nothing but such characters, the bytes are their numbers. -/
theorem map_utf8_of_ascii {s : String} (hascii : ∀ c ∈ s.toList, c.toNat < 128) :
    (s.toUTF8.data.toList.map fun b => Char.ofNat b.toNat) = s.toList := by
  rw [utf8_eq_flatMap, map_flatMap_of_ascii hascii]

theorem length_utf8_of_ascii {s : String} (hascii : ∀ c ∈ s.toList, c.toNat < 128) :
    s.toUTF8.data.toList.length = s.length := by
  have hlength := congrArg List.length (map_utf8_of_ascii hascii)
  rwa [List.length_map, String.length_toList] at hlength

theorem toNat_ofNat_byte (b : UInt8) : (Char.ofNat b.toNat).toNat = b.toNat := by
  have hbyte := b.toNat_lt
  have hvalid : Nat.isValidChar b.toNat := Or.inl (by omega)
  rw [Char.ofNat, dif_pos hvalid]
  rfl

end CapabilityArena.Text
