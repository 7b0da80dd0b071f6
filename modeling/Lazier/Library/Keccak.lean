import Mathlib

/-!
# Keccak-256

The permutation works on 25 lanes of 64 bits, in five rows of five.
-/

namespace Lazier.Library

open List

/-- Left rotation of a 64-bit lane. -/
def rotateLane (lane count : ℕ) : ℕ := (lane <<< count ||| lane >>> (64 - count)) % 2 ^ 64

def laneRotations : List (List ℕ) := [[0, 1, 62, 28, 27], [36, 44, 6, 55, 20], [3, 10, 43, 25, 39],
  [41, 45, 15, 21, 8], [18, 2, 61, 56, 14]]

def roundConstants : List ℕ := [0x1, 0x8082, 0x800000000000808a, 0x8000000080008000, 0x808b,
  0x80000001, 0x8000000080008081, 0x8000000000008009, 0x8a, 0x88, 0x80008009, 0x8000000a,
  0x8000808b, 0x800000000000008b, 0x8000000000008089, 0x8000000000008003, 0x8000000000008002,
  0x8000000000000080, 0x800a, 0x800000008000000a, 0x8000000080008081, 0x8000000000008080,
  0x80000001, 0x8000000080008008]

/-- One round of the permutation on five rows of five lanes. -/
def keccakRound (rows : List (List ℕ)) (constant : ℕ) : List (List ℕ) :=
  let columns := rows.foldl (zipWith (· ^^^ ·)) (replicate 5 0)
  let spread := zipWith (fun left right => left ^^^ rotateLane right 1)
    (columns.rotate 4) (columns.rotate 1)
  let turned := zipWith (zipWith3 (fun mix lane => rotateLane (lane ^^^ mix)) spread) rows
    laneRotations
  let moved := (range 5).map fun y => turned.mapIdx fun x row => row.getD ((x + 3 * y) % 5) 0
  let mixed := moved.map fun row => zipWith3 (fun lane first second =>
    lane ^^^ ((2 ^ 64 - 1 - first) &&& second)) row (row.rotate 1) (row.rotate 2)
  mixed.modifyHead (modifyHead (· ^^^ constant))

/-- The block of 136 bytes as lanes, the low bytes first. -/
def blockRows (block : List UInt8) : List (List ℕ) :=
  (range 5).map fun y => (range 5).map fun x => ((block.drop (8 * (x + 5 * y))).take 8).foldr
    (fun byte lane => byte.toNat + 256 * lane) 0

def absorb (rows : List (List ℕ)) (block : List UInt8) : List (List ℕ) :=
  roundConstants.foldl keccakRound (zipWith (zipWith (· ^^^ ·)) rows (blockRows block))

/-- The padding of a message to blocks of 136 bytes. -/
def keccakPadded (message : List UInt8) : List UInt8 :=
  let missing := 135 - message.length % 136
  if missing = 0 then message ++ [0x81] else message ++ 1 :: replicate (missing - 1) 0 ++ [0x80]

/-- Keccak-256. -/
def keccak256 (message : List UInt8) : List UInt8 :=
  let rows := ((keccakPadded message).toChunks 136).foldl absorb (replicate 5 (replicate 5 0))
  (range 32).map fun i => UInt8.ofNat ((rows.headD []).getD (i / 8) 0 >>> (8 * (i % 8)))

theorem length_keccak256 (message : List UInt8) : (keccak256 message).length = 32 := by
  simp [keccak256]

example : (keccak256 []).take 4 = [0xc5, 0xd2, 0x46, 0x01] := by decide +kernel

end Lazier.Library
