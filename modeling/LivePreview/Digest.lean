import LivePreview.Text.Bytes
import LivePreview.Text.Numeral

/-!
# Content digests

The BLAKE3 hash of bytes, of which eight bytes are kept.

1. `compress` mixes a block of sixteen words into eight in seven rounds.
2. A chunk of at most 1024 bytes is hashed block by block; a `Node` is what is left to compress.
3. Chunks are joined in pairs, level by level, an odd one going up as it is; the last node is
   compressed as the root.
-/

namespace LivePreview.Digest

/-- Eight words that stand for what has been hashed. -/
abbrev Chain := Vector UInt32 8

/-- Sixteen words of content or of state. -/
abbrev Block := Vector UInt32 16

/-- The chain of nothing. -/
def initial : Chain :=
  #v[0x6A09E667, 0xBB67AE85, 0x3C6EF372, 0xA54FF53A, 0x510E527F, 0x9B05688C, 0x1F83D9AB, 0x5BE0CD19]

/-- A word with its bits turned to the right. -/
def rotate (w : UInt32) (n : UInt32) : UInt32 := (w >>> n) ||| (w <<< (32 - n))

/-- Mixes two words of content into four words of state. -/
def mix (s : Block) (a b c d : Fin 16) (x y : UInt32) : Block :=
  let va := s[a] + s[b] + x
  let vd := rotate (s[d] ^^^ va) 16
  let vc := s[c] + vd
  let vb := rotate (s[b] ^^^ vc) 12
  let va := va + vb + y
  let vd := rotate (vd ^^^ va) 8
  let vc := vc + vd
  let vb := rotate (vb ^^^ vc) 7
  (((s.set a va).set b vb).set c vc).set d vd

/-- One round: the columns, then the diagonals. -/
def round (m s : Block) : Block :=
  let s := mix s 0 4 8 12 m[0] m[1]
  let s := mix s 1 5 9 13 m[2] m[3]
  let s := mix s 2 6 10 14 m[4] m[5]
  let s := mix s 3 7 11 15 m[6] m[7]
  let s := mix s 0 5 10 15 m[8] m[9]
  let s := mix s 1 6 11 12 m[10] m[11]
  let s := mix s 2 7 8 13 m[12] m[13]
  mix s 3 4 9 14 m[14] m[15]

/-- The order of the content's words in the next round. -/
def permute (m : Block) : Block :=
  #v[m[2], m[6], m[3], m[10], m[7], m[0], m[4], m[13], m[1], m[11], m[12], m[5], m[9], m[14],
    m[15], m[8]]

/-- Several rounds. -/
def rounds : Nat → Block → Block → Block
  | 0, _, s => s
  | 1, m, s => round m s
  | n + 1, m, s => rounds n (permute m) (round m s)

/-- What is left to compress: a chain, a block, the number of the chunk, the bytes in the block and
what the block is for. -/
structure Node where
  chain : Chain
  block : Block
  counter : Nat
  size : Nat
  purpose : UInt32

/-- Purposes of a block, which add up. -/
def chunkStart : UInt32 := 1

@[inherit_doc chunkStart] def chunkEnd : UInt32 := 2

@[inherit_doc chunkStart] def parent : UInt32 := 4

@[inherit_doc chunkStart] def root : UInt32 := 8

/-- The chain of a node that also serves another purpose. -/
def Node.compress (n : Node) (purpose : UInt32) : Chain :=
  let v := n.chain
  let s : Block :=
    #v[v[0], v[1], v[2], v[3], v[4], v[5], v[6], v[7], initial[0], initial[1], initial[2],
      initial[3], UInt32.ofNat n.counter, UInt32.ofNat (n.counter / Nat.pow 2 32),
      UInt32.ofNat n.size, n.purpose ||| purpose]
  let s := rounds 7 n.block s
  #v[s[0] ^^^ s[8], s[1] ^^^ s[9], s[2] ^^^ s[10], s[3] ^^^ s[11], s[4] ^^^ s[12],
    s[5] ^^^ s[13], s[6] ^^^ s[14], s[7] ^^^ s[15]]

/-- The word of up to four bytes, the first one lowest. -/
def wordOf (bytes : List UInt8) : UInt32 :=
  bytes.foldr (fun b w => (w <<< 8) ||| b.toUInt32) 0

/-- The block of up to 64 bytes. -/
def blockOf (bytes : List UInt8) : Block :=
  Vector.ofFn fun i => wordOf ((bytes.drop (4 * i)).take 4)

/-- The node of a chunk's blocks from one block on; `fuel` bounds their number. -/
def chunkFrom (counter : Nat) : Nat → Chain → UInt32 → List UInt8 → Node
  | 0, chain, purpose, bytes => ⟨chain, blockOf bytes, counter, bytes.length, purpose ||| chunkEnd⟩
  | fuel + 1, chain, purpose, bytes =>
    if bytes.length ≤ 64 then ⟨chain, blockOf bytes, counter, bytes.length, purpose ||| chunkEnd⟩
    else
      let n : Node := ⟨chain, blockOf (bytes.take 64), counter, 64, purpose⟩
      chunkFrom counter fuel (n.compress 0) 0 (bytes.drop 64)

/-- The nodes of a content's chunks, from chunk `counter` on; `fuel` bounds their number. -/
def chunksFrom : Nat → Nat → List UInt8 → List Node
  | 0, _, _ => []
  | fuel + 1, counter, bytes =>
    let node := chunkFrom counter 16 initial chunkStart (bytes.take 1024)
    if bytes.length ≤ 1024 then [node]
    else node :: chunksFrom fuel (counter + 1) (bytes.drop 1024)

/-- The node above two nodes. -/
def Node.join (left right : Node) : Node :=
  ⟨initial, (left.compress 0 ++ right.compress 0 : Vector UInt32 (8 + 8)), 0, 64, parent⟩

/-- Nodes joined in pairs. -/
def joinPairs : List Node → List Node
  | a :: b :: rest => a.join b :: joinPairs rest
  | ns => ns

/-- The node above all nodes; `fuel` bounds the number of levels. -/
def joinAll : Nat → List Node → Option Node
  | _, [] => none
  | _, [n] => some n
  | 0, n :: _ => some n
  | fuel + 1, ns => joinAll fuel (joinPairs ns)

/-- The first eight bytes of a content's hash, as two words. -/
def words (bytes : List UInt8) : UInt32 × UInt32 :=
  let nodes := chunksFrom (bytes.length / 1024 + 1) 0 bytes
  match joinAll nodes.length nodes with
  | some n =>
    let v := n.compress root
    (v[0], v[1])
  | none => (0, 0)

/-- The first eight bytes of a content's hash as a number, the first one lowest. -/
def number (bytes : List UInt8) : Nat :=
  let (low, high) := words bytes
  low.toNat + high.toNat * Nat.pow 2 32

/-- The hexadecimal digits of the eight bytes of a number, the lowest byte first. -/
def hexBytes : Nat → Nat → List Char
  | 0, _ => []
  | count + 1, n => Text.fixedDigits 16 2 (n % 256) ++ hexBytes count (n / 256)

/-- The first eight bytes of a content's hash, in hexadecimal digits. -/
def hex (bytes : List UInt8) : List Char := hexBytes 8 (number bytes)

end LivePreview.Digest
