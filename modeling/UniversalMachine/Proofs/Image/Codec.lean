import Mathlib
import UniversalMachine.Image
import UniversalMachine.Word.Lemmas

/-!
Images and programs determine each other. A word is the number of which its four bytes are the
digits, and writing a word gives back the bytes that it was read from. So a sequence of bytes
holds a program if and only if it is the image of one, which is if and only if its length is a
multiple of four; and the image of two programs in a row is one image after the other.
-/

namespace UniversalMachine.Image

/-! ### One word -/

theorem toNat_word (b₃ b₂ b₁ b₀ : UInt8) :
    (word b₃ b₂ b₁ b₀).toNat =
      b₃.toNat * 2 ^ 24 + (b₂.toNat * 2 ^ 16 + (b₁.toNat * 2 ^ 8 + b₀.toNat)) := by
  have h₃ := b₃.toNat_lt
  have h₂ := b₂.toNat_lt
  have h₁ := b₁.toNat_lt
  have h₀ := b₀.toNat_lt
  have one : ((b₁.toUInt32 <<< 8) ||| b₀.toUInt32).toNat = b₁.toNat * 2 ^ 8 + b₀.toNat :=
    Word.toNat_append 8 b₁.toNat_toUInt32 b₀.toNat_toUInt32 (by decide) (by omega) (by omega)
  have two : ((b₂.toUInt32 <<< 16) ||| ((b₁.toUInt32 <<< 8) ||| b₀.toUInt32)).toNat =
      b₂.toNat * 2 ^ 16 + (b₁.toNat * 2 ^ 8 + b₀.toNat) :=
    Word.toNat_append 16 b₂.toNat_toUInt32 one (by decide) (by omega) (by omega)
  rw [word, UInt32.or_assoc, UInt32.or_assoc]
  exact Word.toNat_append 24 b₃.toNat_toUInt32 two (by decide) (by omega) (by omega)

/-- The byte of a word that has `k` bits below it is a digit of its value. -/
theorem toNat_byte (w : Word) {amount : Word} {k : ℕ} (amount_eq : amount.toNat = k)
    (short : k < 32) : (w >>> amount).toUInt8.toNat = w.toNat / 2 ^ k % 2 ^ 8 := by
  rw [UInt32.toNat_toUInt8, UInt32.toNat_shiftRight, amount_eq, Nat.mod_eq_of_lt short,
    Nat.shiftRight_eq_div_pow]

theorem bytes_word (b₃ b₂ b₁ b₀ : UInt8) : bytes (word b₃ b₂ b₁ b₀) = #[b₃, b₂, b₁, b₀] := by
  have h₂ := b₂.toNat_lt
  have h₁ := b₁.toNat_lt
  have h₀ := b₀.toNat_lt
  have h₃ := b₃.toNat_lt
  have value := toNat_word b₃ b₂ b₁ b₀
  generalize word b₃ b₂ b₁ b₀ = w at value ⊢
  have byte₃ : (w >>> 24).toUInt8 = b₃ := by
    rw [← UInt8.toNat_inj, toNat_byte w (k := 24) rfl (by decide)]
    omega
  have byte₂ : (w >>> 16).toUInt8 = b₂ := by
    rw [← UInt8.toNat_inj, toNat_byte w (k := 16) rfl (by decide)]
    omega
  have byte₁ : (w >>> 8).toUInt8 = b₁ := by
    rw [← UInt8.toNat_inj, toNat_byte w (k := 8) rfl (by decide)]
    omega
  have byte₀ : w.toUInt8 = b₀ := by
    rw [← UInt8.toNat_inj, UInt32.toNat_toUInt8]
    omega
  rw [bytes, byte₃, byte₂, byte₁, byte₀]

theorem word_bytes (w : Word) :
    word (w >>> 24).toUInt8 (w >>> 16).toUInt8 (w >>> 8).toUInt8 w.toUInt8 = w := by
  have fits := w.toNat_lt
  rw [← UInt32.toNat_inj, toNat_word, toNat_byte w (k := 24) rfl (by decide),
    toNat_byte w (k := 16) rfl (by decide), toNat_byte w (k := 8) rfl (by decide),
    UInt32.toNat_toUInt8]
  omega

/-! ### Whole programs -/

theorem encode_append (p q : Array Word) : encode (p ++ q) = encode p ++ encode q :=
  Array.flatMap_append

@[simp] theorem size_bytes (w : Word) : (bytes w).size = 4 :=
  rfl

theorem getElem?_flatMap_bytes (ws : List Word) (i : ℕ) (k : Fin 4) :
    (ws.flatMap fun w => (bytes w).toList)[4 * i + k.val]? =
      ws[i]?.map fun w => (bytes w)[k.val] := by
  induction ws generalizing i with
  | nil => rfl
  | cons w ws ih =>
      have four : (bytes w).toList.length = 4 := rfl
      rw [List.flatMap_cons]
      cases i with
      | zero =>
          rw [List.getElem?_append_left (by omega), List.getElem?_cons_zero, Option.map_some,
            Nat.mul_zero, Nat.zero_add, Array.getElem?_toList]
          exact Array.getElem?_eq_getElem k.isLt
      | succ i =>
          have rest : 4 * (i + 1) + k.val - 4 = 4 * i + k.val := by omega
          rw [List.getElem?_append_right (by omega), four, rest, ih, List.getElem?_cons_succ]

theorem size_encode (program : Array Word) : (encode program).size = 4 * program.size := by
  have four : (fun w : Word => (bytes w).toList.length) = fun _ => 4 := rfl
  rw [← Array.length_toList, encode, Array.toList_flatMap, List.length_flatMap, four,
    List.map_const', List.sum_replicate, Array.length_toList, smul_eq_mul, Nat.mul_comm]

/-- The bytes of each word of a program begin at four times its own offset. -/
theorem getElem_encode {program : Array Word} {i : ℕ} (lt : i < program.size) (k : Fin 4)
    (within : 4 * i + k.val < (encode program).size) :
    (encode program)[4 * i + k.val] = (bytes program[i])[k.val] := by
  have written := getElem?_flatMap_bytes program.toList i k
  rw [← Array.toList_flatMap, ← encode, Array.getElem?_toList, Array.getElem?_toList,
    Array.getElem?_eq_getElem within, Array.getElem?_eq_getElem lt] at written
  exact Option.some.inj written

/-- An image holds a program if each word of the program is made of the four bytes that begin
at four times its offset, and there are no bytes besides. -/
theorem decode_eq_ok_iff {image : Array UInt8} {program : Array Word} :
    decode image = .ok program ↔ ∃ size : image.size = 4 * program.size,
      ∀ i (lt : i < program.size), program[i] =
        word image[4 * i] image[4 * i + 1] image[4 * i + 2] image[4 * i + 3] := by
  rw [decode]
  split
  next whole =>
    rw [Except.ok.injEq, eq_comm, Array.ext_iff]
    simp only [Array.size_ofFn, Array.getElem_ofFn]
    constructor
    · rintro ⟨size, words⟩
      exact ⟨by omega, fun i lt => words i lt (by omega)⟩
    · rintro ⟨size, words⟩
      exact ⟨by omega, fun i lt _ => words i lt⟩
  next torn =>
    constructor
    · nofun
    · rintro ⟨size, -⟩
      omega

theorem decode_encode (program : Array Word) : decode (encode program) = .ok program := by
  have size := size_encode program
  refine decode_eq_ok_iff.mpr ⟨size, fun i lt => ?_⟩
  have byte₃ : (encode program)[4 * i] = (program[i] >>> 24).toUInt8 :=
    getElem_encode lt 0 (by omega)
  have byte₂ : (encode program)[4 * i + 1] = (program[i] >>> 16).toUInt8 :=
    getElem_encode lt 1 (by omega)
  have byte₁ : (encode program)[4 * i + 2] = (program[i] >>> 8).toUInt8 :=
    getElem_encode lt 2 (by omega)
  have byte₀ : (encode program)[4 * i + 3] = program[i].toUInt8 :=
    getElem_encode lt 3 (by omega)
  rw [byte₃, byte₂, byte₁, byte₀, word_bytes]

theorem encode_of_decode {image : Array UInt8} {program : Array Word}
    (decoded : decode image = .ok program) : encode program = image := by
  obtain ⟨size, words⟩ := decode_eq_ok_iff.mp decoded
  refine Array.ext (by rw [size_encode, size]) fun j written given => ?_
  obtain ⟨i, k, rfl⟩ : ∃ (i : ℕ) (k : Fin 4), j = 4 * i + k.val :=
    ⟨j / 4, ⟨j % 4, Nat.mod_lt j (by decide)⟩, (Nat.div_add_mod j 4).symm⟩
  have lt : i < program.size := by omega
  simp only [getElem_encode lt, words i lt, bytes_word]
  fin_cases k <;> rfl

/-- The images are the sequences of bytes that hold a program. -/
theorem decode_eq_ok_iff_encode {image : Array UInt8} {program : Array Word} :
    decode image = .ok program ↔ encode program = image :=
  ⟨encode_of_decode, fun written => written ▸ decode_encode program⟩

theorem decode_of_torn {image : Array UInt8} (torn : ¬ 4 ∣ image.size) :
    decode image = .error (.invalidProgram image.size) :=
  dif_neg fun whole => torn (Nat.dvd_of_mod_eq_zero whole)

theorem exists_decode_iff {image : Array UInt8} :
    (∃ program, decode image = .ok program) ↔ 4 ∣ image.size := by
  constructor
  · rintro ⟨program, decoded⟩
    obtain ⟨size, -⟩ := decode_eq_ok_iff.mp decoded
    exact ⟨program.size, size⟩
  · intro whole
    exact ⟨_, dif_pos (Nat.mod_eq_zero_of_dvd whole)⟩

/-- A sequence of bytes holds a program if and only if four divides its length, and is reported
with its length otherwise. The program has one word for four bytes, with the most significant
byte first, and no other image: writing it gives the bytes back, and reading what was written
gives the program back. Behind the image of a program, a second image is read like one that
stands alone. -/
theorem image_determines_program :
    (∀ image, (∃ program, decode image = .ok program) ↔ 4 ∣ image.size) ∧
    (∀ image, ¬ 4 ∣ image.size → decode image = .error (.invalidProgram image.size)) ∧
    (∀ image program, decode image = .ok program →
      (∃ size : program.size = image.size / 4, ∀ i (lt : i < program.size),
        program[i].toNat = image[4 * i].toNat * 2 ^ 24 + image[4 * i + 1].toNat * 2 ^ 16 +
          image[4 * i + 2].toNat * 2 ^ 8 + image[4 * i + 3].toNat) ∧
      encode program = image) ∧
    (∀ program, decode (encode program) = .ok program) ∧
    ∀ image rest, 4 ∣ image.size →
      ((∃ both, decode (image ++ rest) = .ok both) ↔ ∃ q, decode rest = .ok q) ∧
      ∀ p q, decode image = .ok p → decode rest = .ok q →
        decode (image ++ rest) = .ok (p ++ q) := by
  refine ⟨fun _ => exists_decode_iff, fun _ => decode_of_torn, fun image program decoded => ?_,
    decode_encode, fun image rest whole => ⟨?_, fun p q first second => ?_⟩⟩
  · obtain ⟨size, words⟩ := decode_eq_ok_iff.mp decoded
    refine ⟨⟨by omega, fun i lt => ?_⟩, encode_of_decode decoded⟩
    rw [words i lt, toNat_word]
    omega
  · rw [exists_decode_iff, exists_decode_iff, Array.size_append, Nat.dvd_add_right whole]
  · rw [decode_eq_ok_iff_encode] at first second ⊢
    rw [encode_append, first, second]

/-- Two words behind one another, and a torn word. -/
theorem two_words_and_a_torn_one :
    let first : Array UInt8 := #[0xD0, 0x00, 0x00, 0x07]
    let second : Array UInt8 := #[0x70, 0x00, 0x00, 0x01]
    decode (first ++ second) = .ok #[0xD0000007, 0x70000001] ∧
      encode #[0xD0000007, 0x70000001] = first ++ second ∧
      decode (first ++ #[0x70]) = .error (.invalidProgram 5) := by
  intro first second
  obtain ⟨-, torn, held, -, appended⟩ := image_determines_program
  have both := (appended first second (by decide)).2 #[0xD0000007] #[0x70000001] (by decide)
    (by decide)
  exact ⟨both, (held _ _ both).2, torn (first ++ #[0x70]) (by decide)⟩

end UniversalMachine.Image
