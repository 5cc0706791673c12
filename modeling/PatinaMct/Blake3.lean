import Mathlib
/-!
# Blake3 — the hash function

The unkeyed BLAKE3 hash of a byte string, written to be evaluated: a chunk is a chain of compressed 64-byte blocks, and
the chunks are the leaves of a binary tree whose left subtree is the largest full one.  Hosts of the development's
concrete runs hash with it; what they use is that a hash is 64 hexadecimal digits.
-/
namespace Blake3

def iv : List UInt32 :=
  [0x6A09E667, 0xBB67AE85, 0x3C6EF372, 0xA54FF53A, 0x510E527F, 0x9B05688C, 0x1F83D9AB, 0x5BE0CD19]

def rotateRight (word count : UInt32) : UInt32 := (word >>> count) ||| (word <<< (32 - count))

/-- The quarter round on a column or a diagonal, with two words of the message. -/
def mix (a b c d x y : UInt32) : UInt32 × UInt32 × UInt32 × UInt32 :=
  let a := a + b + x
  let d := rotateRight (d ^^^ a) 16
  let c := c + d
  let b := rotateRight (b ^^^ c) 12
  let a := a + b + y
  let d := rotateRight (d ^^^ a) 8
  let c := c + d
  let b := rotateRight (b ^^^ c) 7
  (a, b, c, d)

/-- One round: the four columns, then the four diagonals. -/
def round : List UInt32 → List UInt32 → List UInt32
  | [v0, v1, v2, v3, v4, v5, v6, v7, v8, v9, v10, v11, v12, v13, v14, v15],
    [m0, m1, m2, m3, m4, m5, m6, m7, m8, m9, m10, m11, m12, m13, m14, m15] =>
    let (v0, v4, v8, v12) := mix v0 v4 v8 v12 m0 m1
    let (v1, v5, v9, v13) := mix v1 v5 v9 v13 m2 m3
    let (v2, v6, v10, v14) := mix v2 v6 v10 v14 m4 m5
    let (v3, v7, v11, v15) := mix v3 v7 v11 v15 m6 m7
    let (v0, v5, v10, v15) := mix v0 v5 v10 v15 m8 m9
    let (v1, v6, v11, v12) := mix v1 v6 v11 v12 m10 m11
    let (v2, v7, v8, v13) := mix v2 v7 v8 v13 m12 m13
    let (v3, v4, v9, v14) := mix v3 v4 v9 v14 m14 m15
    [v0, v1, v2, v3, v4, v5, v6, v7, v8, v9, v10, v11, v12, v13, v14, v15]
  | state, _ => state

def permute (message : List UInt32) : List UInt32 :=
  [2, 6, 3, 10, 7, 0, 4, 13, 1, 11, 12, 5, 9, 14, 15, 8].map fun i => message.getD i 0

def rounds : Nat → List UInt32 → List UInt32 → List UInt32
  | 0, state, _ => state
  | n + 1, state, message => rounds n (round state message) (permute message)

def compress (chaining message : List UInt32) (counter : Nat) (length flags : UInt32) : List UInt32 :=
  let state := rounds 7
    (chaining ++ iv.take 4 ++ [UInt32.ofNat counter, UInt32.ofNat (counter / 2 ^ 32), length, flags]) message
  List.zipWith (· ^^^ ·) (state.take 8) (state.drop 8)

/-- The sixteen little-endian words of a block, padded with zeros. -/
def words (block : List UInt8) : List UInt32 :=
  (List.range 16).map fun i =>
    ((block.drop (4 * i)).take 4).foldr (fun byte word => word * 256 + byte.toUInt32) 0

def chunkStart : UInt32 := 1
def chunkEnd : UInt32 := 2
def parent : UInt32 := 4
def root : UInt32 := 8

/-- The blocks of a chunk, of which there are at most `blocks`. -/
def chunkFrom (counter : Nat) (last : UInt32) : Nat → List UInt32 → UInt32 → List UInt8 → List UInt32
  | 0, chaining, _, _ => chaining
  | blocks + 1, chaining, start, bytes =>
    if bytes.length ≤ 64 then
      compress chaining (words bytes) counter (UInt32.ofNat bytes.length) (start ||| chunkEnd ||| last)
    else
      chunkFrom counter last blocks (compress chaining (words (bytes.take 64)) counter 64 start) 0 (bytes.drop 64)

/-- The tree over at most `2 ^ depth` chunks; `last` is the root flag at the root and zero below it. -/
def tree : Nat → Nat → UInt32 → List UInt8 → List UInt32
  | 0, counter, last, bytes => chunkFrom counter last 16 iv chunkStart bytes
  | depth + 1, counter, last, bytes =>
    let left := 1024 * 2 ^ depth
    if bytes.length ≤ left then tree depth counter last bytes
    else
      compress iv (tree depth counter 0 (bytes.take left) ++ tree depth (counter + 2 ^ depth) 0 (bytes.drop left)) 0 64
        (parent ||| last)

def hexByte (byte : Nat) : List Char := [Nat.digitChar (byte / 16), Nat.digitChar (byte % 16)]

/-- The little-endian bytes of a word, in lowercase hexadecimal. -/
def hexWord (word : UInt32) : List Char :=
  let n := word.toNat
  hexByte (n % 256) ++ hexByte (n / 2 ^ 8 % 256) ++ hexByte (n / 2 ^ 16 % 256) ++ hexByte (n / 2 ^ 24)

/-- **The hash of a byte string**, by its hexadecimal text; 54 levels hold every input of 64-bit length. -/
def hash (bytes : List UInt8) : String := String.ofList ((tree 54 0 root bytes).flatMap hexWord)

example : hash [] = "af1349b9f5f9a1a6a0404dea36dcc9499bcb25c9adc112b7cc9a93cae41f3262" := by decide +kernel

example : hash [97, 98, 99] = "6437b3ac38465133ffb63b75273a8db548c558465d79db03fd359c6cd5bd9d85" := by decide +kernel

/-! ## The form of the text -/

theorem round_length (s message : List UInt32) : (round s message).length = s.length := by
  unfold round
  split <;> rfl

theorem rounds_length (n : Nat) (s message : List UInt32) : (rounds n s message).length = s.length := by
  induction n generalizing s message with
  | zero => rfl
  | succ n ih => rw [rounds, ih, round_length]

theorem compress_length {chaining : List UInt32} (h : chaining.length = 8) (message : List UInt32) (counter : Nat)
    (length flags : UInt32) : (compress chaining message counter length flags).length = 8 := by
  simp [compress, rounds_length, h, iv]

theorem chunkFrom_length {chaining : List UInt32} (h : chaining.length = 8) (counter : Nat) (last : UInt32) (blocks : Nat)
    (start : UInt32) (bs : List UInt8) : (chunkFrom counter last blocks chaining start bs).length = 8 := by
  induction blocks generalizing chaining start bs with
  | zero => exact h
  | succ blocks ih =>
    unfold chunkFrom
    split
    · exact compress_length h _ _ _ _
    · exact ih (compress_length h _ _ _ _) _ _

theorem tree_length (depth counter : Nat) (last : UInt32) (bs : List UInt8) :
    (tree depth counter last bs).length = 8 := by
  induction depth generalizing counter last bs with
  | zero => exact chunkFrom_length rfl _ _ _ _ _
  | succ depth ih =>
    simp only [tree]
    split
    · exact ih _ _ _
    · exact compress_length rfl _ _ _ _

theorem hexByte_digits {byte : Nat} (h : byte < 256) : ∀ c ∈ hexByte byte, ∃ n < 16, c = Nat.digitChar n := by
  intro c hc
  obtain rfl | rfl := by simpa [hexByte] using hc
  · exact ⟨_, by omega, rfl⟩
  · exact ⟨_, Nat.mod_lt _ (by decide), rfl⟩

theorem hexWord_digits (word : UInt32) : ∀ c ∈ hexWord word, ∃ n < 16, c = Nat.digitChar n := by
  have hsize := word.toNat_lt
  intro c hc
  simp only [hexWord, List.mem_append, or_assoc] at hc
  rcases hc with hc | hc | hc | hc
  · exact hexByte_digits (Nat.mod_lt _ (by decide)) c hc
  · exact hexByte_digits (Nat.mod_lt _ (by decide)) c hc
  · exact hexByte_digits (Nat.mod_lt _ (by decide)) c hc
  · exact hexByte_digits (by omega) c hc

theorem hash_length (bs : List UInt8) : (hash bs).toList.length = 64 := by
  have hword : ∀ word, (hexWord word).length = 8 := fun _ => rfl
  simp [hash, List.length_flatMap, hword, tree_length]

theorem hash_digits (bs : List UInt8) : ∀ c ∈ (hash bs).toList, ∃ n < 16, c = Nat.digitChar n := by
  intro c hc
  simp only [hash, String.toList_ofList, List.mem_flatMap] at hc
  obtain ⟨word, -, hc⟩ := hc
  exact hexWord_digits word c hc

end Blake3
