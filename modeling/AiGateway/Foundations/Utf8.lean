import Mathlib.Data.List.Basic

/-!
# Decoding UTF-8 as it arrives

The decoder reads one byte at a time. A byte that cannot continue the character
that was started yields a replacement character and is read again as the start
of another one; so does an input that ends inside a character. A byte order mark
at the very beginning is dropped. As the decoder is a fold over the bytes, it
does not matter how they are cut into pieces. What was encoded is read back.
-/

namespace AiGateway
namespace Foundations
namespace Utf8

/-- A character of which some bytes are still to come, if any are. -/
structure Partial where
  codePoint : Nat := 0
  /-- The number of bytes that are still to come. -/
  needed : Nat := 0
  /-- The least value that the next of them may have. -/
  lower : Nat := 0x80
  /-- The greatest value that it may have. -/
  upper : Nat := 0xBF
  deriving DecidableEq, Repr

/-- What stands for bytes that are no character. -/
def replacement : Char := '\uFFFD'

/-- What the decoder drops at the beginning of its input. -/
def byteOrderMark : Char := '\uFEFF'

/-- The first byte of a character. -/
def start (byte : Nat) : Partial × List Char :=
  if byte ≤ 0x7F then
    ({}, [Char.ofNat byte])
  else if 0xC2 ≤ byte ∧ byte ≤ 0xDF then
    ({ codePoint := byte % 0x20, needed := 1 }, [])
  else if 0xE0 ≤ byte ∧ byte ≤ 0xEF then
    ({ codePoint := byte % 0x10
       needed := 2
       -- no overlong form, and no surrogate
       lower := if byte = 0xE0 then 0xA0 else 0x80
       upper := if byte = 0xED then 0x9F else 0xBF }, [])
  else if 0xF0 ≤ byte ∧ byte ≤ 0xF4 then
    ({ codePoint := byte % 0x08
       needed := 3
       -- no overlong form, and nothing above U+10FFFF
       lower := if byte = 0xF0 then 0x90 else 0x80
       upper := if byte = 0xF4 then 0x8F else 0xBF }, [])
  else
    ({}, [replacement])

/-- One more byte. -/
def feed (begun : Partial) (byte : UInt8) : Partial × List Char :=
  if begun.needed = 0 then
    start byte.toNat
  else if begun.lower ≤ byte.toNat ∧ byte.toNat ≤ begun.upper then
    let codePoint := begun.codePoint * 0x40 + byte.toNat % 0x40
    if begun.needed = 1 then
      ({}, [Char.ofNat codePoint])
    else
      ({ codePoint := codePoint, needed := begun.needed - 1 }, [])
  else
    let (begun, chars) := start byte.toNat
    (begun, replacement :: chars)

/-- Bytes, one after the other. -/
def feedAll (begun : Partial) : List UInt8 → Partial × List Char
  | [] => (begun, [])
  | byte :: bytes =>
      let (begun, chars) := feed begun byte
      let (begun, later) := feedAll begun bytes
      (begun, chars ++ later)

/-- The end of the input. -/
def finish (begun : Partial) : List Char :=
  if begun.needed = 0 then [] else [replacement]

/-- Drop a byte order mark unless a character was seen before. -/
def skipMark : Bool → List Char → Bool × List Char
  | seen, [] => (seen, [])
  | true, chars => (true, chars)
  | false, char :: chars =>
      (true, if char = byteOrderMark then chars else char :: chars)

/-- The decoder between two pieces of its input. -/
structure State where
  begun : Partial := {}
  /-- Was a character seen? -/
  seen : Bool := false
  deriving DecidableEq, Repr

/-- The characters of one more piece. -/
def decode (state : State) (bytes : List UInt8) : State × List Char :=
  let (begun, chars) := feedAll state.begun bytes
  let (seen, chars) := skipMark state.seen chars
  ({ begun := begun, seen := seen }, chars)

@[simp] theorem feedAll_nil (begun : Partial) : feedAll begun [] = (begun, []) :=
  rfl

theorem feedAll_append (begun : Partial) (first second : List UInt8) :
    feedAll begun (first ++ second) =
      ((feedAll (feedAll begun first).1 second).1,
        (feedAll begun first).2 ++
          (feedAll (feedAll begun first).1 second).2) := by
  induction first generalizing begun with
  | nil => rfl
  | cons byte bytes inductionHypothesis =>
      simp only [List.cons_append, feedAll, inductionHypothesis,
        List.append_assoc]

theorem skipMark_true (chars : List Char) :
    skipMark true chars = (true, chars) := by
  cases chars <;> rfl

theorem skipMark_append (seen : Bool) (first second : List Char) :
    skipMark seen (first ++ second) =
      ((skipMark (skipMark seen first).1 second).1,
        (skipMark seen first).2 ++
          (skipMark (skipMark seen first).1 second).2) := by
  cases first with
  | nil => cases seen <;> rfl
  | cons char chars =>
      cases seen with
      | true => simp only [skipMark_true]
      | false =>
          have rest := skipMark_true second
          simp only [List.cons_append, skipMark] at rest ⊢
          rw [rest]
          split_ifs <;> rfl

@[simp] theorem decode_nil (state : State) : decode state [] = (state, []) := by
  simp [decode, skipMark]

/-- Two pieces decode as one. -/
theorem decode_append (state : State) (first second : List UInt8) :
    decode state (first ++ second) =
      ((decode (decode state first).1 second).1,
        (decode state first).2 ++ (decode (decode state first).1 second).2) := by
  simp only [decode, feedAll_append, skipMark_append]

/-- The end of the input adds no line feed. -/
theorem lineFeed_notMem_finish (begun : Partial) : '\n' ∉ finish begun := by
  unfold finish
  split_ifs
  · exact List.not_mem_nil
  · decide

/-- The bytes of some characters. -/
def encode (chars : List Char) : List UInt8 :=
  chars.flatMap String.utf8EncodeChar

theorem toNat_ofNat_of_lt {value : Nat} (small : value < 256) :
    (UInt8.ofNat value).toNat = value := by
  rw [UInt8.toNat_ofNat', Nat.mod_eq_of_lt small]

theorem feed_start {byte : Nat} (small : byte < 256) :
    feed {} (UInt8.ofNat byte) = start byte := by
  rw [feed, if_pos rfl, toNat_ofNat_of_lt small]

/-- A byte that goes on with a character. -/
theorem feed_continuation
    (begun : Partial)
    {low : Nat}
    (isBegun : begun.needed ≠ 0)
    (small : low < 64)
    (inBounds : begun.lower ≤ low + 128 ∧ low + 128 ≤ begun.upper) :
    feed begun (UInt8.ofNat (low + 128)) =
      if begun.needed = 1 then
        ({}, [Char.ofNat (begun.codePoint * 64 + low)])
      else
        ({ codePoint := begun.codePoint * 64 + low, needed := begun.needed - 1 },
          []) := by
  have lowBits : (low + 128) % 64 = low := by omega
  rw [feed, if_neg isBegun, toNat_ofNat_of_lt (by omega), if_pos inBounds]
  simp only [lowBits]

/-- A byte that yields nothing yet. -/
theorem feedAll_cons_of_silent
    {begun next : Partial}
    {byte : UInt8}
    (silent : feed begun byte = (next, []))
    (bytes : List UInt8) :
    feedAll begun (byte :: bytes) = feedAll next bytes := by
  rw [feedAll, silent]
  rfl

/-- The last byte of a character. -/
theorem feedAll_last (value : Nat) :
    feedAll { codePoint := value / 64, needed := 1 }
        [UInt8.ofNat (value % 64 + 128)] =
      ({}, [Char.ofNat value]) := by
  have whole : value / 64 * 64 + value % 64 = value := by omega
  rw [feedAll, feed_continuation _ Nat.one_ne_zero (by omega)
    ⟨Nat.le_add_left _ _, by change _ ≤ 191; omega⟩, if_pos rfl, whole]
  rfl

/-- The last two bytes. -/
theorem feedAll_lastTwo
    {value lower upper : Nat}
    (inBounds : lower ≤ value / 64 % 64 + 128 ∧
      value / 64 % 64 + 128 ≤ upper) :
    feedAll
        { codePoint := value / 4096, needed := 2, lower := lower, upper := upper }
        [UInt8.ofNat (value / 64 % 64 + 128), UInt8.ofNat (value % 64 + 128)] =
      ({}, [Char.ofNat value]) := by
  have whole : value / 4096 * 64 + value / 64 % 64 = value / 64 := by omega
  have silent := feed_continuation
    { codePoint := value / 4096, needed := 2, lower := lower, upper := upper }
    (Nat.succ_ne_zero 1) (Nat.mod_lt _ (by decide)) inBounds
  rw [if_neg (Nat.succ_ne_self 1), whole] at silent
  rw [feedAll_cons_of_silent silent]
  exact feedAll_last value

/-- The last three bytes. -/
theorem feedAll_lastThree
    {value lower upper : Nat}
    (inBounds : lower ≤ value / 4096 % 64 + 128 ∧
      value / 4096 % 64 + 128 ≤ upper) :
    feedAll
        { codePoint := value / 262144
          needed := 3
          lower := lower
          upper := upper }
        [UInt8.ofNat (value / 4096 % 64 + 128),
          UInt8.ofNat (value / 64 % 64 + 128), UInt8.ofNat (value % 64 + 128)] =
      ({}, [Char.ofNat value]) := by
  have whole : value / 262144 * 64 + value / 4096 % 64 = value / 4096 := by omega
  have silent := feed_continuation
    { codePoint := value / 262144, needed := 3, lower := lower, upper := upper }
    (Nat.succ_ne_zero 2) (Nat.mod_lt _ (by decide)) inBounds
  rw [if_neg (by simp), whole] at silent
  rw [feedAll_cons_of_silent silent]
  exact feedAll_lastTwo ⟨Nat.le_add_left _ _, by omega⟩

/-- The bytes of a character decode to it. -/
theorem feedAll_utf8EncodeChar (char : Char) :
    feedAll {} (String.utf8EncodeChar char) = ({}, [char]) := by
  have isChar : Char.ofNat char.val.toNat = char := Char.ofNat_toNat char
  have valid : char.val.toNat < 0xD800 ∨
      0xDFFF < char.val.toNat ∧ char.val.toNat < 0x110000 := char.valid
  unfold String.utf8EncodeChar
  generalize char.val.toNat = value at isChar valid
  rw [← isChar]
  dsimp only
  split_ifs with one two three
  · rw [feedAll, feed_start (by omega), start, if_pos one]
    rfl
  · have first : start (value / 64 % 32 + 192) =
        ({ codePoint := value / 64, needed := 1 }, []) := by
      have bits : (value / 64 % 32 + 192) % 32 = value / 64 := by omega
      rw [start, if_neg (by omega), if_pos (by omega), bits]
    rw [feedAll_cons_of_silent ((feed_start (by omega)).trans first)]
    exact feedAll_last value
  · have first : start (value / 4096 % 16 + 224) =
        ({ codePoint := value / 4096
           needed := 2
           lower := if value / 4096 % 16 + 224 = 0xE0 then 0xA0 else 0x80
           upper := if value / 4096 % 16 + 224 = 0xED then 0x9F else 0xBF },
          []) := by
      have bits : (value / 4096 % 16 + 224) % 16 = value / 4096 := by omega
      rw [start, if_neg (by omega), if_neg (by omega), if_pos (by omega), bits]
    rw [feedAll_cons_of_silent ((feed_start (by omega)).trans first)]
    exact feedAll_lastTwo (by split_ifs <;> omega)
  · have first : start (value / 262144 % 8 + 240) =
        ({ codePoint := value / 262144
           needed := 3
           lower := if value / 262144 % 8 + 240 = 0xF0 then 0x90 else 0x80
           upper := if value / 262144 % 8 + 240 = 0xF4 then 0x8F else 0xBF },
          []) := by
      have bits : (value / 262144 % 8 + 240) % 8 = value / 262144 := by omega
      rw [start, if_neg (by omega), if_neg (by omega), if_neg (by omega),
        if_pos (by omega), bits]
    rw [feedAll_cons_of_silent ((feed_start (by omega)).trans first)]
    exact feedAll_lastThree (by split_ifs <;> omega)

/-- The bytes of a text decode to it. -/
theorem feedAll_encode (chars : List Char) :
    feedAll {} (encode chars) = ({}, chars) := by
  induction chars with
  | nil => rfl
  | cons char chars inductionHypothesis =>
      rw [encode, List.flatMap_cons, feedAll_append, feedAll_utf8EncodeChar,
        ← encode, inductionHypothesis]
      rfl

/-- A text that does not begin with a byte order mark is read back as it was. -/
theorem decode_encode
    {chars : List Char}
    (noMark : chars.head? ≠ some byteOrderMark) :
    (decode {} (encode chars)).1.begun = {} ∧
      (decode {} (encode chars)).2 = chars := by
  unfold decode
  rw [feedAll_encode]
  cases chars with
  | nil => exact ⟨rfl, rfl⟩
  | cons char chars =>
      have isText : char ≠ byteOrderMark := fun isMark =>
        noMark (congrArg some isMark)
      exact ⟨rfl, if_neg isText⟩

/-- A euro sign that is cut after its second byte, with a byte order mark before
it. -/
example :
    let first := decode {} [0xEF, 0xBB, 0xBF, 0xE2, 0x82]
    first.2 = [] ∧ (decode first.1 [0xAC, 0x0A]).2 = ['€', '\n'] := by decide

end Utf8
end Foundations
end AiGateway
