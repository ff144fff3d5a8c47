import DdsBridge.Lib.Codec

/-!
# The hashes of `src/dds/sertype.rs`

MurmurHash3 for `base.hash` and MD5 for long key hashes. Arithmetic is modulo 2^32.
-/

namespace DdsBridge

def rotateLeft (x : UInt32) (n : UInt32) : UInt32 := (x <<< n) ||| (x >>> (32 - n))

def u32FromLE (bytes : Bytes) : UInt32 := UInt32.ofNat (ofLE bytes)

/-! ## MurmurHash3 -/

def scramble (k : UInt32) : UInt32 := rotateLeft (k * 0xcc9e2d51) 15 * 0x1b873593

def murmurBlocks : UInt32 → Bytes → UInt32 × Bytes
  | h, b0 :: b1 :: b2 :: b3 :: data =>
    let h := h ^^^ scramble (u32FromLE [b0, b1, b2, b3])
    murmurBlocks (rotateLeft h 13 * 5 + 0xe6546b64) data
  | h, tail => (h, tail)

def murmurTail (h : UInt32) : Bytes → UInt32
  | [] => h
  | tail@(t0 :: _) =>
    let k1 := if tail.length ≥ 3 then (tail.getD 2 0).toUInt32 <<< 16 else 0
    let k1 := if tail.length ≥ 2 then k1 ^^^ ((tail.getD 1 0).toUInt32 <<< 8) else k1
    h ^^^ scramble (k1 ^^^ t0.toUInt32)

def murmurFinish (h : UInt32) : UInt32 :=
  let h := h ^^^ (h >>> 16)
  let h := h * 0x85ebca6b
  let h := h ^^^ (h >>> 13)
  let h := h * 0xc2b2ae35
  h ^^^ (h >>> 16)

def murmurhash3 (data : Bytes) (seed : UInt32) : UInt32 :=
  let (h, tail) := murmurBlocks seed data
  murmurFinish (murmurTail h tail ^^^ UInt32.ofNat data.length)

/-! ## MD5 -/

def md5Shifts : List UInt32 :=
  [7, 12, 17, 22, 7, 12, 17, 22, 7, 12, 17, 22, 7, 12, 17, 22,
   5, 9, 14, 20, 5, 9, 14, 20, 5, 9, 14, 20, 5, 9, 14, 20,
   4, 11, 16, 23, 4, 11, 16, 23, 4, 11, 16, 23, 4, 11, 16, 23,
   6, 10, 15, 21, 6, 10, 15, 21, 6, 10, 15, 21, 6, 10, 15, 21]

def md5Constants : List UInt32 :=
  [0xd76aa478, 0xe8c7b756, 0x242070db, 0xc1bdceee,
   0xf57c0faf, 0x4787c62a, 0xa8304613, 0xfd469501,
   0x698098d8, 0x8b44f7af, 0xffff5bb1, 0x895cd7be,
   0x6b901122, 0xfd987193, 0xa679438e, 0x49b40821,
   0xf61e2562, 0xc040b340, 0x265e5a51, 0xe9b6c7aa,
   0xd62f105d, 0x02441453, 0xd8a1e681, 0xe7d3fbc8,
   0x21e1cde6, 0xc33707d6, 0xf4d50d87, 0x455a14ed,
   0xa9e3e905, 0xfcefa3f8, 0x676f02d9, 0x8d2a4c8a,
   0xfffa3942, 0x8771f681, 0x6d9d6122, 0xfde5380c,
   0xa4beea44, 0x4bdecfa9, 0xf6bb4b60, 0xbebfbc70,
   0x289b7ec6, 0xeaa127fa, 0xd4ef3085, 0x04881d05,
   0xd9d4d039, 0xe6db99e5, 0x1fa27cf8, 0xc4ac5665,
   0xf4292244, 0x432aff97, 0xab9423a7, 0xfc93a039,
   0x655b59c3, 0x8f0ccc92, 0xffeff47d, 0x85845dd1,
   0x6fa87e4f, 0xfe2ce6e0, 0xa3014314, 0x4e0811a1,
   0xf7537e82, 0xbd3af235, 0x2ad7d2bb, 0xeb86d391]

structure Md5State where
  a : UInt32
  b : UInt32
  c : UInt32
  d : UInt32
  deriving DecidableEq, Repr

def md5Init : Md5State where
  a := 0x67452301
  b := 0xefcdab89
  c := 0x98badcfe
  d := 0x10325476

/-- The bit length is a `u64`, so it wraps. -/
def md5Pad (data : Bytes) : Bytes :=
  data ++ 0x80 :: (List.replicate ((119 - data.length % 64) % 64) 0 ++
    u64le (UInt64.ofNat data.length * 8))

def md5Round (m : List UInt32) (s : Md5State) (i : Nat) : Md5State :=
  let (f, g) :=
    if i < 16 then ((s.b &&& s.c) ||| (~~~s.b &&& s.d), i)
    else if i < 32 then ((s.d &&& s.b) ||| (~~~s.d &&& s.c), (5 * i + 1) % 16)
    else if i < 48 then (s.b ^^^ s.c ^^^ s.d, (3 * i + 5) % 16)
    else (s.c ^^^ (s.b ||| ~~~s.d), (7 * i) % 16)
  let f := f + s.a + md5Constants.getD i 0 + m.getD g 0
  { a := s.d, b := s.b + rotateLeft f (md5Shifts.getD i 0), c := s.b, d := s.c }

def md5Chunk (s : Md5State) (chunk : Bytes) : Md5State :=
  let m := (List.range 16).map fun i => u32FromLE ((chunk.drop (i * 4)).take 4)
  let r := (List.range 64).foldl (md5Round m) s
  { a := s.a + r.a, b := s.b + r.b, c := s.c + r.c, d := s.d + r.d }

/-- `msg.chunks(64)`, of which there are `n`. -/
def md5Chunks : Nat → Bytes → Md5State → Md5State
  | 0, _, s => s
  | n + 1, msg, s => md5Chunks n (msg.drop 64) (md5Chunk s (msg.take 64))

def md5Hash (data : Bytes) : Bytes :=
  let msg := md5Pad data
  let s := md5Chunks (msg.length / 64) msg md5Init
  u32le s.a ++ (u32le s.b ++ (u32le s.c ++ u32le s.d))

end DdsBridge
