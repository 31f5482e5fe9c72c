/-!
The Keccak digest of 256 bits: a sponge over five rows of five 64-bit lanes, with the padding that
starts with a single one bit.
-/

set_option autoImplicit false

namespace MultiWallet.Keccak

structure Row where
  a : UInt64
  b : UInt64
  c : UInt64
  d : UInt64
  e : UInt64

structure State where
  r₀ : Row
  r₁ : Row
  r₂ : Row
  r₃ : Row
  r₄ : Row

def rotate (x : UInt64) (k : UInt64) : UInt64 := (x <<< k) ||| (x >>> (64 - k))

def Row.zero : Row := ⟨0, 0, 0, 0, 0⟩

def Row.xor (x y : Row) : Row :=
  ⟨x.a ^^^ y.a, x.b ^^^ y.b, x.c ^^^ y.c, x.d ^^^ y.d, x.e ^^^ y.e⟩

def State.zero : State := ⟨.zero, .zero, .zero, .zero, .zero⟩

def State.xor (s t : State) : State :=
  ⟨s.r₀.xor t.r₀, s.r₁.xor t.r₁, s.r₂.xor t.r₂, s.r₃.xor t.r₃, s.r₄.xor t.r₄⟩

def mixColumns (s : State) : State :=
  let p := (((s.r₀.xor s.r₁).xor s.r₂).xor s.r₃).xor s.r₄
  let d : Row :=
    ⟨p.e ^^^ rotate p.b 1, p.a ^^^ rotate p.c 1, p.b ^^^ rotate p.d 1, p.c ^^^ rotate p.e 1,
     p.d ^^^ rotate p.a 1⟩
  ⟨s.r₀.xor d, s.r₁.xor d, s.r₂.xor d, s.r₃.xor d, s.r₄.xor d⟩

def permuteLanes (s : State) : State :=
  ⟨⟨s.r₀.a, rotate s.r₁.b 44, rotate s.r₂.c 43, rotate s.r₃.d 21, rotate s.r₄.e 14⟩,
   ⟨rotate s.r₀.d 28, rotate s.r₁.e 20, rotate s.r₂.a 3, rotate s.r₃.b 45, rotate s.r₄.c 61⟩,
   ⟨rotate s.r₀.b 1, rotate s.r₁.c 6, rotate s.r₂.d 25, rotate s.r₃.e 8, rotate s.r₄.a 18⟩,
   ⟨rotate s.r₀.e 27, rotate s.r₁.a 36, rotate s.r₂.b 10, rotate s.r₃.c 15, rotate s.r₄.d 56⟩,
   ⟨rotate s.r₀.c 62, rotate s.r₁.d 55, rotate s.r₂.e 39, rotate s.r₃.a 41, rotate s.r₄.b 2⟩⟩

def Row.twist (x : Row) : Row :=
  ⟨x.a ^^^ (~~~x.b &&& x.c), x.b ^^^ (~~~x.c &&& x.d), x.c ^^^ (~~~x.d &&& x.e),
   x.d ^^^ (~~~x.e &&& x.a), x.e ^^^ (~~~x.a &&& x.b)⟩

def twistRows (s : State) : State :=
  ⟨s.r₀.twist, s.r₁.twist, s.r₂.twist, s.r₃.twist, s.r₄.twist⟩

def addConstant (k : UInt64) (s : State) : State :=
  { s with r₀ := { s.r₀ with a := s.r₀.a ^^^ k } }

def round (s : State) (k : UInt64) : State :=
  addConstant k (twistRows (permuteLanes (mixColumns s)))

def roundConstants : List UInt64 :=
  [0x0000000000000001, 0x0000000000008082, 0x800000000000808a, 0x8000000080008000,
   0x000000000000808b, 0x0000000080000001, 0x8000000080008081, 0x8000000000008009,
   0x000000000000008a, 0x0000000000000088, 0x0000000080008009, 0x000000008000000a,
   0x000000008000808b, 0x800000000000008b, 0x8000000000008089, 0x8000000000008003,
   0x8000000000008002, 0x8000000000000080, 0x000000000000800a, 0x800000008000000a,
   0x8000000080008081, 0x8000000000008080, 0x0000000080000001, 0x8000000080008008]

def permute (s : State) : State := roundConstants.foldl round s

-- Bytes that one block takes in.
def rate : Nat := 136

def pad (bytes : List UInt8) : List UInt8 :=
  let gap := rate - bytes.length % rate
  if gap = 1 then bytes ++ [0x81]
  else bytes ++ 0x01 :: List.replicate (gap - 2) 0x00 ++ [0x80]

def lane : List UInt8 → UInt64
  | [] => 0
  | b :: rest => b.toUInt64 ||| (lane rest <<< 8)

def laneAt (block : List UInt8) (i : Nat) : UInt64 := lane ((block.drop (8 * i)).take 8)

def rowAt (block : List UInt8) (i : Nat) : Row :=
  ⟨laneAt block i, laneAt block (i + 1), laneAt block (i + 2), laneAt block (i + 3),
   laneAt block (i + 4)⟩

def blockState (block : List UInt8) : State :=
  ⟨rowAt block 0, rowAt block 5, rowAt block 10,
   ⟨laneAt block 15, laneAt block 16, 0, 0, 0⟩, .zero⟩

def absorb : (blocks : Nat) → State → List UInt8 → State
  | 0, s, _ => s
  | blocks + 1, s, bytes =>
    absorb blocks (permute (s.xor (blockState (bytes.take rate)))) (bytes.drop rate)

def laneBytes (x : UInt64) : List UInt8 :=
  [x.toUInt8, (x >>> 8).toUInt8, (x >>> 16).toUInt8, (x >>> 24).toUInt8, (x >>> 32).toUInt8,
   (x >>> 40).toUInt8, (x >>> 48).toUInt8, (x >>> 56).toUInt8]

def digest (bytes : List UInt8) : List UInt8 :=
  let padded := pad bytes
  let s := absorb (padded.length / rate) .zero padded
  laneBytes s.r₀.a ++ laneBytes s.r₀.b ++ laneBytes s.r₀.c ++ laneBytes s.r₀.d

end MultiWallet.Keccak
