import CapabilityArena.Blake3.Compression

/-!
The tree of BLAKE3. The input is cut into chunks of 1024 bytes and every chunk into blocks of 64. The left
subtree of a node holds the largest power of two of chunks that leaves something for the right one. Only
the last compression, that of the root, is marked as such.
-/

namespace CapabilityArena.Blake3

/-- A hash is determined by its key and by what it is used for. -/
structure Mode where
  key : Chain
  flags : UInt32

/-- A compression that is still to be done: as an inner node, or as the root. -/
structure Node where
  chain : Chain
  block : Block
  counter : UInt64
  length : UInt32
  flags : UInt32

/-- Four bytes, the lowest first. -/
def wordAt (bytes : List UInt8) (i : Nat) : UInt32 :=
  let byte (j : Nat) : UInt32 := ((bytes[4 * i + j]?).getD 0).toUInt32
  byte 0 ||| (byte 1 <<< 8) ||| (byte 2 <<< 16) ||| (byte 3 <<< 24)

/-- Up to 64 bytes, filled up with zeros. -/
def blockOf (bytes : List UInt8) : Block := .ofFn fun i => wordAt bytes i

def chainOf (bytes : List UInt8) : Chain := .ofFn fun i => wordAt bytes i

def chainBytes (chain : Chain) : List UInt8 :=
  chain.toList.flatMap fun (word : UInt32) =>
    [word.toUInt8, (word >>> 8).toUInt8, (word >>> 16).toUInt8, (word >>> 24).toUInt8]

/-- The rest of a chunk. The first block of a chunk and the last are marked. -/
def chunkFrom (mode : Mode) (counter : UInt64) (start : UInt32) (chain : Chain)
    (bytes : List UInt8) : Node :=
  if bytes.length ≤ 64 then
    ⟨chain, blockOf bytes, counter, UInt32.ofNat bytes.length, mode.flags ||| start ||| 2⟩
  else
    chunkFrom mode counter 0
      (compress chain (blockOf (bytes.take 64)) counter 64 (mode.flags ||| start)) (bytes.drop 64)
termination_by bytes.length
decreasing_by simp only [List.length_drop]; omega

def chunk (mode : Mode) (counter : UInt64) (bytes : List UInt8) : Node :=
  chunkFrom mode counter 1 mode.key bytes

namespace Node

def chaining (n : Node) : Chain := compress n.chain n.block n.counter n.length n.flags

/-- The thirty-two bytes that the tree under a node hashes to. -/
def root (n : Node) : List UInt8 := chainBytes (compress n.chain n.block 0 n.length (n.flags ||| 8))

/-- The node over two subtrees. -/
def parent (mode : Mode) (left right : Node) : Node :=
  ⟨mode.key, (left.chaining ++ right.chaining).cast rfl, 0, 64, mode.flags ||| 4⟩

end Node

/-- How many bytes go to the left: a power of two that leaves at least one to the right. -/
def leftLength (length : Nat) : Nat := 1 <<< Nat.log2 (length - 1)

theorem leftLength_lt {length : Nat} (hlarge : 1024 < length) : leftLength length < length := by
  have := Nat.log2_self_le (n := length - 1) (by omega)
  rw [leftLength, Nat.one_shiftLeft]
  omega

theorem leftLength_pos (length : Nat) : 0 < leftLength length := by
  rw [leftLength, Nat.one_shiftLeft]
  exact Nat.two_pow_pos _

def tree (mode : Mode) (counter : Nat) (bytes : List UInt8) : Node :=
  if hsmall : bytes.length ≤ 1024 then chunk mode (UInt64.ofNat counter) bytes
  else
    let left := leftLength bytes.length
    .parent mode (tree mode counter (bytes.take left))
      (tree mode (counter + left / 1024) (bytes.drop left))
termination_by bytes.length
decreasing_by
  · have hless : leftLength bytes.length < bytes.length := leftLength_lt (by omega)
    simp only [List.length_take]
    omega
  · have hpos := leftLength_pos bytes.length
    simp only [List.length_drop]
    omega

def hashWith (mode : Mode) (bytes : List UInt8) : List UInt8 := (tree mode 0 bytes).root

/-- The keyed hash; a key has thirty-two bytes. -/
def keyedHash (key bytes : List UInt8) : List UInt8 := hashWith ⟨chainOf key, 16⟩ bytes

/-- A key for one purpose from any material. -/
def deriveKey (purpose material : List UInt8) : List UInt8 :=
  hashWith ⟨chainOf (hashWith ⟨initial, 32⟩ purpose), 64⟩ material

theorem length_chainBytes (chain : Chain) : (chainBytes chain).length = 32 := by
  simp [chainBytes, List.length_flatMap, List.map_const']

/-- A hash has thirty-two bytes. -/
theorem length_hashWith (mode : Mode) (bytes : List UInt8) : (hashWith mode bytes).length = 32 :=
  length_chainBytes _

end CapabilityArena.Blake3
