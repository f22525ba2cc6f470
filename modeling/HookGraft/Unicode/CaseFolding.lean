import HookGraft.Unicode.RangeTable

/-!
# Simple case folding

Two characters are variants of one another when they fold to the same character. Folding maps one
character to one character, so the length of a text never changes.

## Main definitions

* `FoldRun`: equally spaced code points that fold by the same distance
* `foldRuns`: all characters that fold to another one
* `RangeTable.withVariants`: a set of code points with all their variants
* `RangeTable.withAsciiVariants`: the same if only the letters from A to Z have a case
-/

namespace HookGraft.Unicode

/-- Code points `first`, `first + stride`, … that fold to `target`, `target + stride`, … -/
structure FoldRun where
  first : Nat
  stride : Nat
  count : Nat
  target : Nat

namespace FoldRun

/-- The run that leads back. -/
def inverse (run : FoldRun) : FoldRun := ⟨run.target, run.stride, run.count, run.first⟩

/-- What the code points from `low` to `high` fold to by the run. -/
def images (run : FoldRun) (low high : Nat) : List Nat :=
  if high < run.first ∨ run.first + run.stride * run.count ≤ low then []
  else
    (List.range run.count).filterMap fun i =>
      let n := run.first + run.stride * i
      if low ≤ n ∧ n ≤ high then some (run.target + run.stride * i) else none

end FoldRun

/-- The runs of simple case folding. -/
def foldRuns : List FoldRun :=
  [⟨0x41, 1, 26, 0x61⟩, ⟨0xb5, 1, 1, 0x3bc⟩, ⟨0xc0, 1, 23, 0xe0⟩, ⟨0xd8, 1, 7, 0xf8⟩,
   ⟨0x100, 2, 24, 0x101⟩, ⟨0x132, 2, 3, 0x133⟩, ⟨0x139, 2, 8, 0x13a⟩, ⟨0x14a, 2, 23, 0x14b⟩,
   ⟨0x178, 1, 1, 0xff⟩, ⟨0x179, 2, 3, 0x17a⟩, ⟨0x17f, 1, 1, 0x73⟩, ⟨0x181, 1, 1, 0x253⟩,
   ⟨0x182, 2, 2, 0x183⟩, ⟨0x186, 1, 1, 0x254⟩, ⟨0x187, 1, 1, 0x188⟩, ⟨0x189, 1, 2, 0x256⟩,
   ⟨0x18b, 1, 1, 0x18c⟩, ⟨0x18e, 1, 1, 0x1dd⟩, ⟨0x18f, 1, 1, 0x259⟩, ⟨0x190, 1, 1, 0x25b⟩,
   ⟨0x191, 1, 1, 0x192⟩, ⟨0x193, 1, 1, 0x260⟩, ⟨0x194, 1, 1, 0x263⟩, ⟨0x196, 1, 1, 0x269⟩,
   ⟨0x197, 1, 1, 0x268⟩, ⟨0x198, 1, 1, 0x199⟩, ⟨0x19c, 1, 1, 0x26f⟩, ⟨0x19d, 1, 1, 0x272⟩,
   ⟨0x19f, 1, 1, 0x275⟩, ⟨0x1a0, 2, 3, 0x1a1⟩, ⟨0x1a6, 1, 1, 0x280⟩, ⟨0x1a7, 1, 1, 0x1a8⟩,
   ⟨0x1a9, 1, 1, 0x283⟩, ⟨0x1ac, 1, 1, 0x1ad⟩, ⟨0x1ae, 1, 1, 0x288⟩, ⟨0x1af, 1, 1, 0x1b0⟩,
   ⟨0x1b1, 1, 2, 0x28a⟩, ⟨0x1b3, 2, 2, 0x1b4⟩, ⟨0x1b7, 1, 1, 0x292⟩, ⟨0x1b8, 1, 1, 0x1b9⟩,
   ⟨0x1bc, 1, 1, 0x1bd⟩, ⟨0x1c4, 1, 1, 0x1c6⟩, ⟨0x1c5, 1, 1, 0x1c6⟩, ⟨0x1c7, 1, 1, 0x1c9⟩,
   ⟨0x1c8, 1, 1, 0x1c9⟩, ⟨0x1ca, 1, 1, 0x1cc⟩, ⟨0x1cb, 2, 9, 0x1cc⟩, ⟨0x1de, 2, 9, 0x1df⟩,
   ⟨0x1f1, 1, 1, 0x1f3⟩, ⟨0x1f2, 2, 2, 0x1f3⟩, ⟨0x1f6, 1, 1, 0x195⟩, ⟨0x1f7, 1, 1, 0x1bf⟩,
   ⟨0x1f8, 2, 20, 0x1f9⟩, ⟨0x220, 1, 1, 0x19e⟩, ⟨0x222, 2, 9, 0x223⟩, ⟨0x23a, 1, 1, 0x2c65⟩,
   ⟨0x23b, 1, 1, 0x23c⟩, ⟨0x23d, 1, 1, 0x19a⟩, ⟨0x23e, 1, 1, 0x2c66⟩, ⟨0x241, 1, 1, 0x242⟩,
   ⟨0x243, 1, 1, 0x180⟩, ⟨0x244, 1, 1, 0x289⟩, ⟨0x245, 1, 1, 0x28c⟩, ⟨0x246, 2, 5, 0x247⟩,
   ⟨0x345, 1, 1, 0x3b9⟩, ⟨0x370, 2, 2, 0x371⟩, ⟨0x376, 1, 1, 0x377⟩, ⟨0x37f, 1, 1, 0x3f3⟩,
   ⟨0x386, 1, 1, 0x3ac⟩, ⟨0x388, 1, 3, 0x3ad⟩, ⟨0x38c, 1, 1, 0x3cc⟩, ⟨0x38e, 1, 2, 0x3cd⟩,
   ⟨0x391, 1, 17, 0x3b1⟩, ⟨0x3a3, 1, 9, 0x3c3⟩, ⟨0x3c2, 1, 1, 0x3c3⟩, ⟨0x3cf, 1, 1, 0x3d7⟩,
   ⟨0x3d0, 1, 1, 0x3b2⟩, ⟨0x3d1, 1, 1, 0x3b8⟩, ⟨0x3d5, 1, 1, 0x3c6⟩, ⟨0x3d6, 1, 1, 0x3c0⟩,
   ⟨0x3d8, 2, 12, 0x3d9⟩, ⟨0x3f0, 1, 1, 0x3ba⟩, ⟨0x3f1, 1, 1, 0x3c1⟩, ⟨0x3f4, 1, 1, 0x3b8⟩,
   ⟨0x3f5, 1, 1, 0x3b5⟩, ⟨0x3f7, 1, 1, 0x3f8⟩, ⟨0x3f9, 1, 1, 0x3f2⟩, ⟨0x3fa, 1, 1, 0x3fb⟩,
   ⟨0x3fd, 1, 3, 0x37b⟩, ⟨0x400, 1, 16, 0x450⟩, ⟨0x410, 1, 32, 0x430⟩, ⟨0x460, 2, 17, 0x461⟩,
   ⟨0x48a, 2, 27, 0x48b⟩, ⟨0x4c0, 1, 1, 0x4cf⟩, ⟨0x4c1, 2, 7, 0x4c2⟩, ⟨0x4d0, 2, 48, 0x4d1⟩,
   ⟨0x531, 1, 38, 0x561⟩, ⟨0x10a0, 1, 38, 0x2d00⟩, ⟨0x10c7, 1, 1, 0x2d27⟩, ⟨0x10cd, 1, 1, 0x2d2d⟩,
   ⟨0x13f8, 1, 6, 0x13f0⟩, ⟨0x1c80, 1, 1, 0x432⟩, ⟨0x1c81, 1, 1, 0x434⟩, ⟨0x1c82, 1, 1, 0x43e⟩,
   ⟨0x1c83, 1, 2, 0x441⟩, ⟨0x1c85, 1, 1, 0x442⟩, ⟨0x1c86, 1, 1, 0x44a⟩, ⟨0x1c87, 1, 1, 0x463⟩,
   ⟨0x1c88, 1, 1, 0xa64b⟩, ⟨0x1c89, 1, 1, 0x1c8a⟩, ⟨0x1c90, 1, 43, 0x10d0⟩, ⟨0x1cbd, 1, 3, 0x10fd⟩,
   ⟨0x1e00, 2, 75, 0x1e01⟩, ⟨0x1e9b, 1, 1, 0x1e61⟩, ⟨0x1e9e, 1, 1, 0xdf⟩, ⟨0x1ea0, 2, 48, 0x1ea1⟩,
   ⟨0x1f08, 1, 8, 0x1f00⟩, ⟨0x1f18, 1, 6, 0x1f10⟩, ⟨0x1f28, 1, 8, 0x1f20⟩, ⟨0x1f38, 1, 8, 0x1f30⟩,
   ⟨0x1f48, 1, 6, 0x1f40⟩, ⟨0x1f59, 2, 4, 0x1f51⟩, ⟨0x1f68, 1, 8, 0x1f60⟩, ⟨0x1f88, 1, 8, 0x1f80⟩,
   ⟨0x1f98, 1, 8, 0x1f90⟩, ⟨0x1fa8, 1, 8, 0x1fa0⟩, ⟨0x1fb8, 1, 2, 0x1fb0⟩, ⟨0x1fba, 1, 2, 0x1f70⟩,
   ⟨0x1fbc, 1, 1, 0x1fb3⟩, ⟨0x1fbe, 1, 1, 0x3b9⟩, ⟨0x1fc8, 1, 4, 0x1f72⟩, ⟨0x1fcc, 1, 1, 0x1fc3⟩,
   ⟨0x1fd3, 1, 1, 0x390⟩, ⟨0x1fd8, 1, 2, 0x1fd0⟩, ⟨0x1fda, 1, 2, 0x1f76⟩, ⟨0x1fe3, 1, 1, 0x3b0⟩,
   ⟨0x1fe8, 1, 2, 0x1fe0⟩, ⟨0x1fea, 1, 2, 0x1f7a⟩, ⟨0x1fec, 1, 1, 0x1fe5⟩, ⟨0x1ff8, 1, 2, 0x1f78⟩,
   ⟨0x1ffa, 1, 2, 0x1f7c⟩, ⟨0x1ffc, 1, 1, 0x1ff3⟩, ⟨0x2126, 1, 1, 0x3c9⟩, ⟨0x212a, 1, 1, 0x6b⟩,
   ⟨0x212b, 1, 1, 0xe5⟩, ⟨0x2132, 1, 1, 0x214e⟩, ⟨0x2160, 1, 16, 0x2170⟩, ⟨0x2183, 1, 1, 0x2184⟩,
   ⟨0x24b6, 1, 26, 0x24d0⟩, ⟨0x2c00, 1, 48, 0x2c30⟩, ⟨0x2c60, 1, 1, 0x2c61⟩, ⟨0x2c62, 1, 1, 0x26b⟩,
   ⟨0x2c63, 1, 1, 0x1d7d⟩, ⟨0x2c64, 1, 1, 0x27d⟩, ⟨0x2c67, 2, 3, 0x2c68⟩, ⟨0x2c6d, 1, 1, 0x251⟩,
   ⟨0x2c6e, 1, 1, 0x271⟩, ⟨0x2c6f, 1, 1, 0x250⟩, ⟨0x2c70, 1, 1, 0x252⟩, ⟨0x2c72, 1, 1, 0x2c73⟩,
   ⟨0x2c75, 1, 1, 0x2c76⟩, ⟨0x2c7e, 1, 2, 0x23f⟩, ⟨0x2c80, 2, 50, 0x2c81⟩, ⟨0x2ceb, 2, 2, 0x2cec⟩,
   ⟨0x2cf2, 1, 1, 0x2cf3⟩, ⟨0xa640, 2, 23, 0xa641⟩, ⟨0xa680, 2, 14, 0xa681⟩, ⟨0xa722, 2, 7, 0xa723⟩,
   ⟨0xa732, 2, 31, 0xa733⟩, ⟨0xa779, 2, 2, 0xa77a⟩, ⟨0xa77d, 1, 1, 0x1d79⟩, ⟨0xa77e, 2, 5, 0xa77f⟩,
   ⟨0xa78b, 1, 1, 0xa78c⟩, ⟨0xa78d, 1, 1, 0x265⟩, ⟨0xa790, 2, 2, 0xa791⟩, ⟨0xa796, 2, 10, 0xa797⟩,
   ⟨0xa7aa, 1, 1, 0x266⟩, ⟨0xa7ab, 1, 1, 0x25c⟩, ⟨0xa7ac, 1, 1, 0x261⟩, ⟨0xa7ad, 1, 1, 0x26c⟩,
   ⟨0xa7ae, 1, 1, 0x26a⟩, ⟨0xa7b0, 1, 1, 0x29e⟩, ⟨0xa7b1, 1, 1, 0x287⟩, ⟨0xa7b2, 1, 1, 0x29d⟩,
   ⟨0xa7b3, 1, 1, 0xab53⟩, ⟨0xa7b4, 2, 8, 0xa7b5⟩, ⟨0xa7c4, 1, 1, 0xa794⟩, ⟨0xa7c5, 1, 1, 0x282⟩,
   ⟨0xa7c6, 1, 1, 0x1d8e⟩, ⟨0xa7c7, 2, 2, 0xa7c8⟩, ⟨0xa7cb, 1, 1, 0x264⟩, ⟨0xa7cc, 1, 1, 0xa7cd⟩,
   ⟨0xa7d0, 1, 1, 0xa7d1⟩, ⟨0xa7d6, 2, 3, 0xa7d7⟩, ⟨0xa7dc, 1, 1, 0x19b⟩, ⟨0xa7f5, 1, 1, 0xa7f6⟩,
   ⟨0xab70, 1, 80, 0x13a0⟩, ⟨0xfb05, 1, 1, 0xfb06⟩, ⟨0xff21, 1, 26, 0xff41⟩,
   ⟨0x10400, 1, 40, 0x10428⟩, ⟨0x104b0, 1, 36, 0x104d8⟩, ⟨0x10570, 1, 11, 0x10597⟩,
   ⟨0x1057c, 1, 15, 0x105a3⟩, ⟨0x1058c, 1, 7, 0x105b3⟩, ⟨0x10594, 1, 2, 0x105bb⟩,
   ⟨0x10c80, 1, 51, 0x10cc0⟩, ⟨0x10d50, 1, 22, 0x10d70⟩, ⟨0x118a0, 1, 32, 0x118c0⟩,
   ⟨0x16e40, 1, 32, 0x16e60⟩, ⟨0x1e900, 1, 34, 0x1e922⟩]

/-- Adds what some runs make of the code points of a table. -/
def RangeTable.addImages (table : RangeTable) (runs : List FoldRun) : RangeTable :=
  (table.flatMap fun (low, high) => runs.flatMap (·.images low high)).foldl
    (fun table n => table.insert n n) table

/-- A set of code points with all their variants: to the folded forms of its members, which are
their own folded forms, it adds all that fold to one of them. -/
def RangeTable.withVariants (table : RangeTable) : RangeTable :=
  (table.addImages foldRuns).addImages (foldRuns.map FoldRun.inverse)

/-- The letters from A to Z fold to those from a to z. -/
def asciiFoldRun : FoldRun := ⟨0x41, 1, 26, 0x61⟩

/-- A set of code points with the letters from A to Z, and from a to z, in the other case. -/
def RangeTable.withAsciiVariants (table : RangeTable) : RangeTable :=
  (table.addImages [asciiFoldRun]).addImages [asciiFoldRun.inverse]

end HookGraft.Unicode
