/-!
# The Mersenne twister

A generator of 32-bit words with a state of 624 words, seeded by an integer of any size. Wider
numbers are put together from several words, the least significant word first.
-/

namespace RollScript.Random

/-- The words of the present round, and how many of them have been used. -/
structure Twister where
  words : Array UInt32
  used : Nat

namespace Twister

/-- The number of words in a state. -/
def size : Nat := 624

/-- The word at an index. -/
def word (words : Array UInt32) (index : Nat) : UInt32 :=
  words.getD index 0

/-- The state that a single word expands to. -/
def expand (seed : UInt32) : Array UInt32 :=
  (List.range (size - 1)).foldl
    (fun words i =>
      let previous := word words i
      words.push ((1812433253 : UInt32) * (previous ^^^ (previous >>> 30)) + (i + 1).toUInt32))
    #[seed]

/-- Moves to the next word of a state; past the last one, the last word also becomes the first. -/
def wrap (words : Array UInt32) (index : Nat) : Array UInt32 × Nat :=
  if size ≤ index + 1 then (words.setIfInBounds 0 (word words (size - 1)), 1) else (words, index + 1)

/-- Mixes the words of a key into a state. -/
def mixKey (key : Array UInt32) : Nat → Nat → Nat → Array UInt32 → Array UInt32 × Nat
  | 0, index, _, words => (words, index)
  | rounds + 1, index, keyIndex, words =>
    let previous := word words (index - 1)
    let mixed := (word words index ^^^ ((previous ^^^ (previous >>> 30)) * 1664525)) +
      word key keyIndex + keyIndex.toUInt32
    let (words, index) := wrap (words.setIfInBounds index mixed) index
    mixKey key rounds index (if key.size ≤ keyIndex + 1 then 0 else keyIndex + 1) words

/-- Mixes a state once more without a key. -/
def mixState : Nat → Nat → Array UInt32 → Array UInt32
  | 0, _, words => words
  | rounds + 1, index, words =>
    let previous := word words (index - 1)
    let mixed := (word words index ^^^ ((previous ^^^ (previous >>> 30)) * 1566083941)) -
      index.toUInt32
    let (words, index) := wrap (words.setIfInBounds index mixed) index
    mixState rounds index words

/-- The 32-bit words of a natural number, the least significant first; zero has one word. -/
def keyWords (n : Nat) : Array UInt32 :=
  ((List.range (n.log2 / 32 + 1)).map fun i => (n >>> (32 * i)).toUInt32).toArray

/-- A generator seeded by an integer. The sign does not matter. -/
def ofSeed (seed : Int) : Twister :=
  let key := keyWords seed.natAbs
  let (words, index) := mixKey key (max size key.size) 1 0 (expand 19650218)
  let words := mixState (size - 1) index words
  ⟨words.setIfInBounds 0 0x80000000, size⟩

/-- The state of the next round. Each new word mixes two neighbouring words with one from 397 places
on. -/
def twist (words : Array UInt32) : Array UInt32 :=
  (List.range size).foldl
    (fun words i =>
      let joined := (word words i &&& 0x80000000) ||| (word words ((i + 1) % size) &&& 0x7FFFFFFF)
      let mixed := word words ((i + 397) % size) ^^^ (joined >>> 1) ^^^
        (if joined &&& 1 = 1 then 0x9908B0DF else 0)
      words.setIfInBounds i mixed)
    words

/-- The last mixing of a word before it is handed out. -/
def temper (y : UInt32) : UInt32 :=
  let y := y ^^^ (y >>> 11)
  let y := y ^^^ ((y <<< 7) &&& 0x9D2C5680)
  let y := y ^^^ ((y <<< 15) &&& 0xEFC60000)
  y ^^^ (y >>> 18)

/-- The next word. -/
def next (t : Twister) : UInt32 × Twister :=
  if size ≤ t.used then
    let words := twist t.words
    (temper (word words 0), ⟨words, 1⟩)
  else
    (temper (word t.words t.used), { t with used := t.used + 1 })

/-- The next number of `width` bits, put together from words in order; the last word gives its high
bits. -/
def bits (width : Nat) (t : Twister) : Nat × Twister :=
  let (n, _, t) := (List.range ((width + 31) / 32)).foldl
    (fun (n, place, t) _ =>
      let (word, t) := t.next
      let left := width - place
      let part := if left < 32 then word.toNat >>> (32 - left) else word.toNat
      (n + (part <<< place), place + 32, t))
    (0, 0, t)
  (n, t)

end Twister

end RollScript.Random
