/-!
# Letter case and bytes

Token texts match a layout whatever the case of its ASCII letters, and a place in a layout is
told in UTF-8 bytes. Texts are compared byte by byte. `startsWith_eq_isPrefixOf` says that
comparing them character by character gives the same answer: changing the case of an ASCII
letter keeps its one-byte size, and no encoding of a character is a proper beginning of another.
A text can be cut at a byte position only between two characters (`fromByte?_eq_some_iff`).
-/

namespace DateLayout.Text

/-- The bytes of the UTF-8 form of the characters. -/
def bytes (cs : List Char) : List UInt8 :=
  cs.flatMap String.utf8EncodeChar

/-- A byte with upper case ASCII letters put in lower case. -/
def lowerByte (b : UInt8) : UInt8 :=
  if 65 ≤ b ∧ b ≤ 90 then b + 32 else b

/-- Whether `input` begins with the bytes of `text`, upper and lower case ASCII letters being the
same. -/
def startsWith (input text : List Char) : Bool :=
  ((bytes text).map lowerByte).isPrefixOf ((bytes input).map lowerByte)

theorem toLower_toLower (c : Char) : c.toLower.toLower = c.toLower := by
  by_cases upper : c.val ≥ 'A'.val ∧ c.val ≤ 'Z'.val
  · have shifted : c.toLower.val = c.val + ('a'.val - 'A'.val) :=
      congrArg Char.val (dif_pos upper)
    refine dif_neg fun again => ?_
    rw [shifted] at again
    simp only [UInt32.le_iff_toNat_le, UInt32.toNat_add, seval] at upper again
    omega
  · have same : c.toLower = c := dif_neg upper
    rw [same, same]

/-- The number of bytes in the UTF-8 form of the characters. -/
def byteCount (cs : List Char) : Nat :=
  match cs with
  | [] => 0
  | c :: rest => c.utf8Size + byteCount rest

@[simp] theorem byteCount_nil : byteCount [] = 0 := rfl

@[simp] theorem byteCount_cons (c : Char) (cs : List Char) :
    byteCount (c :: cs) = c.utf8Size + byteCount cs := rfl

@[simp] theorem byteCount_append (as bs : List Char) :
    byteCount (as ++ bs) = byteCount as + byteCount bs := by
  induction as with
  | nil => simp
  | cons c rest ih =>
      simp only [List.cons_append, byteCount_cons, ih]
      omega

theorem length_le_byteCount (cs : List Char) : cs.length ≤ byteCount cs := by
  induction cs with
  | nil => simp
  | cons c cs ih =>
      have := c.utf8Size_pos
      simp
      omega

theorem byteCount_eq_utf8ByteSize_ofList (cs : List Char) :
    byteCount cs = (String.ofList cs).utf8ByteSize := by
  induction cs with
  | nil => rfl
  | cons c rest ih =>
      rw [String.ofList_cons, String.utf8ByteSize_append, String.utf8ByteSize_singleton,
        byteCount_cons, ih]

theorem byteCount_toList (s : String) : byteCount s.toList = s.utf8ByteSize := by
  rw [byteCount_eq_utf8ByteSize_ofList, String.ofList_toList]

@[simp] theorem bytes_append (as bs : List Char) : bytes (as ++ bs) = bytes as ++ bytes bs := by
  simp [bytes]

theorem length_bytes (cs : List Char) : (bytes cs).length = byteCount cs := by
  induction cs with
  | nil => rfl
  | cons c rest ih =>
      rw [bytes, List.flatMap_cons, List.length_append, String.length_utf8EncodeChar]
      exact congrArg (c.utf8Size + ·) ih

/-! ## Byte positions -/

/-- What is left of a text from a byte position on; nothing if the position is inside a character
or past the end. -/
def fromByte? (position : Nat) (cs : List Char) : Option (List Char) :=
  match cs with
  | [] => if position = 0 then some [] else none
  | c :: rest =>
      if position = 0 then some (c :: rest)
      else if c.utf8Size ≤ position then fromByte? (position - c.utf8Size) rest
      else none

theorem fromByte?_eq_some_iff {position : Nat} {cs rest : List Char} :
    fromByte? position cs = some rest ↔
      ∃ before, before ++ rest = cs ∧ byteCount before = position := by
  induction cs generalizing position with
  | nil =>
      rw [fromByte?]
      constructor
      · intro h
        split at h
        · next h0 =>
            cases h
            exact ⟨[], rfl, h0.symm⟩
        · cases h
      · rintro ⟨before, h, rfl⟩
        obtain ⟨rfl, rfl⟩ := List.append_eq_nil_iff.1 h
        rfl
  | cons c cs ih =>
      rw [fromByte?]
      have pos := c.utf8Size_pos
      constructor
      · intro h
        split at h
        · next h0 =>
            cases h
            exact ⟨[], rfl, h0.symm⟩
        · split at h
          · next le =>
              obtain ⟨before, rfl, hb⟩ := ih.1 h
              exact ⟨c :: before, rfl, by rw [byteCount_cons]; omega⟩
          · cases h
      · rintro ⟨before, h, rfl⟩
        cases before with
        | nil =>
            subst h
            rfl
        | cons d before =>
            obtain ⟨rfl, rfl⟩ := List.cons.inj h
            rw [byteCount_cons, if_neg (by omega), if_pos (by omega)]
            exact ih.2 ⟨before, rfl, by omega⟩

theorem fromByte?_zero (cs : List Char) : fromByte? 0 cs = some cs :=
  fromByte?_eq_some_iff.2 ⟨[], rfl, rfl⟩

/-- Going on by the bytes of what stands at a position leads to what follows it. -/
theorem fromByte?_add {position : Nat} {cs front rest : List Char}
    (h : fromByte? position cs = some (front ++ rest)) :
    fromByte? (position + byteCount front) cs = some rest := by
  obtain ⟨before, rfl, rfl⟩ := fromByte?_eq_some_iff.1 h
  exact fromByte?_eq_some_iff.2
    ⟨before ++ front, List.append_assoc _ _ _, byteCount_append before front⟩

theorem add_byteCount_of_fromByte? {position : Nat} {cs rest : List Char}
    (h : fromByte? position cs = some rest) : position + byteCount rest = byteCount cs := by
  obtain ⟨before, rfl, rfl⟩ := fromByte?_eq_some_iff.1 h
  exact (byteCount_append before rest).symm

/-- A position from which a text goes on is between two of its characters. -/
theorem isValid_of_fromByte? {position : Nat} {layout : String} {rest : List Char}
    (h : fromByte? position layout.toList = some rest) :
    (String.Pos.Raw.mk position).IsValid layout := by
  obtain ⟨front, whole, size⟩ := fromByte?_eq_some_iff.1 h
  refine String.Pos.Raw.isValid_iff_exists_append.2
    ⟨String.ofList front, String.ofList rest, ?_, ?_⟩
  · rw [← String.ofList_append, whole, String.ofList_toList]
  · rw [← size, byteCount_eq_utf8ByteSize_ofList]
    rfl

/-! ## Bytes against characters -/

theorem lowerByte_of_le {b : UInt8} (h : 128 ≤ b.toNat) : lowerByte b = b := by
  refine if_neg fun upper => ?_
  simp only [UInt8.le_iff_toNat_le, UInt8.reduceToNat] at upper
  omega

theorem le_of_mem_utf8EncodeChar {c : Char} (h : ¬ c.val.toNat ≤ 127) :
    ∀ b ∈ String.utf8EncodeChar c, 128 ≤ b.toNat := by
  intro b hb
  simp only [String.utf8EncodeChar] at hb
  rw [if_neg h] at hb
  split at hb
  · simp only [List.mem_cons, List.not_mem_nil, or_false] at hb
    rcases hb with rfl | rfl <;> rw [UInt8.toNat_ofNat'] <;> omega
  · split at hb
    · simp only [List.mem_cons, List.not_mem_nil, or_false] at hb
      rcases hb with rfl | rfl | rfl <;> rw [UInt8.toNat_ofNat'] <;> omega
    · simp only [List.mem_cons, List.not_mem_nil, or_false] at hb
      rcases hb with rfl | rfl | rfl | rfl <;> rw [UInt8.toNat_ofNat'] <;> omega

theorem utf8EncodeChar_of_le {c : Char} (h : c.val.toNat ≤ 127) :
    String.utf8EncodeChar c = [UInt8.ofNat c.val.toNat] := by
  simp only [String.utf8EncodeChar]
  exact if_pos h

/-- Only the bytes of ASCII characters are below 128, so the bytes of a character in lower case
are its bytes in lower case. -/
theorem utf8EncodeChar_toLower (c : Char) :
    String.utf8EncodeChar c.toLower = (String.utf8EncodeChar c).map lowerByte := by
  by_cases upper : c.val ≥ 'A'.val ∧ c.val ≤ 'Z'.val
  · have shifted : c.toLower.val = c.val + ('a'.val - 'A'.val) :=
      congrArg Char.val (dif_pos upper)
    simp only [UInt32.le_iff_toNat_le, seval] at upper
    have sum : c.toLower.val.toNat = c.val.toNat + 32 := by
      rw [shifted]
      simp only [UInt32.toNat_add, seval]
      omega
    rw [utf8EncodeChar_of_le (by omega), utf8EncodeChar_of_le (by omega), sum, List.map_singleton,
      lowerByte, if_pos]
    · rw [UInt8.ofNat_add]
      rfl
    · simp only [UInt8.le_iff_toNat_le, UInt8.toNat_ofNat', UInt8.reduceToNat]
      omega
  · have same : c.toLower = c := dif_neg upper
    rw [same]
    by_cases small : c.val.toNat ≤ 127
    · rw [utf8EncodeChar_of_le small, List.map_singleton, lowerByte, if_neg]
      simp only [UInt32.le_iff_toNat_le, seval] at upper
      simp only [UInt8.le_iff_toNat_le, UInt8.toNat_ofNat', UInt8.reduceToNat]
      omega
    · have kept : ∀ b ∈ String.utf8EncodeChar c, lowerByte b = id b :=
        fun b hb => lowerByte_of_le (le_of_mem_utf8EncodeChar small b hb)
      rw [List.map_congr_left kept, List.map_id]

theorem bytes_map_toLower (cs : List Char) :
    bytes (cs.map Char.toLower) = (bytes cs).map lowerByte := by
  induction cs with
  | nil => rfl
  | cons c rest ih =>
      simp only [bytes, List.map_cons, List.flatMap_cons, List.map_append] at ih ⊢
      rw [utf8EncodeChar_toLower, ih]

theorem toByteArray_bytes (cs : List Char) : (bytes cs).toByteArray = cs.utf8Encode := rfl

/-- No character's bytes are a proper beginning of another's. -/
theorem bytes_prefix_bytes {as bs : List Char} : bytes as <+: bytes bs ↔ as <+: bs := by
  constructor
  · rintro ⟨rest, h⟩
    refine List.isPrefix_of_utf8Encode_append_eq_utf8Encode rest.toByteArray ?_
    rw [← toByteArray_bytes, ← toByteArray_bytes, ← h, List.toByteArray_append]
  · rintro ⟨rest, rfl⟩
    exact ⟨bytes rest, (bytes_append as rest).symm⟩

/-- Comparing bytes is comparing characters. -/
theorem startsWith_eq_isPrefixOf (input text : List Char) :
    startsWith input text = (text.map Char.toLower).isPrefixOf (input.map Char.toLower) := by
  rw [Bool.eq_iff_iff, startsWith, ← bytes_map_toLower, ← bytes_map_toLower,
    List.isPrefixOf_iff_prefix, List.isPrefixOf_iff_prefix, bytes_prefix_bytes]

theorem startsWith_iff {input text : List Char} :
    startsWith input text = true ↔
      text.length ≤ input.length ∧
        (input.take text.length).map Char.toLower = text.map Char.toLower := by
  rw [startsWith_eq_isPrefixOf, List.isPrefixOf_iff_prefix, List.prefix_iff_eq_take]
  simp only [List.length_map, ← List.map_take]
  constructor
  · intro h
    refine ⟨?_, h.symm⟩
    have := congrArg List.length h
    simp at this
    omega
  · exact fun h => h.2.symm

theorem byteCount_map_toLower (cs : List Char) :
    byteCount (cs.map Char.toLower) = byteCount cs := by
  rw [← length_bytes, bytes_map_toLower, List.length_map, length_bytes]

/-- What spells a text takes as many bytes as the text. -/
theorem byteCount_take_of_startsWith {input text : List Char}
    (h : startsWith input text = true) : byteCount (input.take text.length) = byteCount text := by
  rw [← byteCount_map_toLower, (startsWith_iff.1 h).2, byteCount_map_toLower]

end DateLayout.Text
