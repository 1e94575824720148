import Conveyor.Pattern.CharSet

/-!
# Letter case

Characters that differ in letter case alone, by the simple case folding of Unicode. Each character that differs from
another one so is paired with the first of its kind.
-/

namespace Conveyor.Pattern

/-- The pairs of characters and the first of their kind, as runs: the first and the last character, the distance between
two of them if it is not one, and the character that the first one is paired with. -/
def foldingRuns : String :=
  "61-7a:41 e0-f6:c0 f8-fe:d8 101-12f/2:100 133-137/2:132 13a-148/2:139 14b-177/2:14a 178:ff 17a-17e/2:179 17f:53 " ++
  "183-185/2:182 188:187 18c:18b 192:191 199:198 1a1-1a5/2:1a0 1a8:1a7 1ad:1ac 1b0:1af 1b4-1b6/2:1b3 1b9:1b8 " ++
  "1bd:1bc 1c5:1c4 1c6:1c4 1c8:1c7 1c9:1c7 1cb:1ca 1cc:1ca 1ce-1dc/2:1cd 1dd:18e 1df-1ef/2:1de 1f2:1f1 1f3:1f1 " ++
  "1f5:1f4 1f6:195 1f7:1bf 1f9-21f/2:1f8 220:19e 223-233/2:222 23c:23b 23d:19a 242:241 243:180 247-24f/2:246 " ++
  "253:181 254:186 256-257:189 259:18f 25b:190 260:193 263:194 268:197 269:196 26f:19c 272:19d 275:19f 280:1a6 " ++
  "283:1a9 288:1ae 289:244 28a-28b:1b1 28c:245 292:1b7 371-373/2:370 377:376 399:345 39c:b5 3ac:386 3ad-3af:388 " ++
  "3b1-3b8:391 3b9:345 3ba-3bb:39a 3bc:b5 3bd-3c1:39d 3c2:3a3 3c3-3cb:3a3 3cc:38c 3cd-3ce:38e 3d0:392 3d1:398 " ++
  "3d5:3a6 3d6:3a0 3d7:3cf 3d9-3ef/2:3d8 3f0:39a 3f1:3a1 3f3:37f 3f4:398 3f5:395 3f8:3f7 3f9:3f2 3fb:3fa " ++
  "3fd-3ff:37b 430-44f:410 450-45f:400 461-481/2:460 48b-4bf/2:48a 4c2-4ce/2:4c1 4cf:4c0 4d1-52f/2:4d0 " ++
  "561-586:531 13f8-13fd:13f0 1c80:412 1c81:414 1c82:41e 1c83-1c84:421 1c85:422 1c86:42a 1c87:462 1c8a:1c89 " ++
  "1c90-1cba:10d0 1cbd-1cbf:10fd 1e01-1e95/2:1e00 1e9b:1e60 1e9e:df 1ea1-1eff/2:1ea0 1f08-1f0f:1f00 " ++
  "1f18-1f1d:1f10 1f28-1f2f:1f20 1f38-1f3f:1f30 1f48-1f4d:1f40 1f59-1f5f/2:1f51 1f68-1f6f:1f60 1f88-1f8f:1f80 " ++
  "1f98-1f9f:1f90 1fa8-1faf:1fa0 1fb8-1fb9:1fb0 1fba-1fbb:1f70 1fbc:1fb3 1fbe:345 1fc8-1fcb:1f72 1fcc:1fc3 " ++
  "1fd3:390 1fd8-1fd9:1fd0 1fda-1fdb:1f76 1fe3:3b0 1fe8-1fe9:1fe0 1fea-1feb:1f7a 1fec:1fe5 1ff8-1ff9:1f78 " ++
  "1ffa-1ffb:1f7c 1ffc:1ff3 2126:3a9 212a:4b 212b:c5 214e:2132 2170-217f:2160 2184:2183 24d0-24e9:24b6 " ++
  "2c30-2c5f:2c00 2c61:2c60 2c62:26b 2c63:1d7d 2c64:27d 2c65:23a 2c66:23e 2c68-2c6c/2:2c67 2c6d:251 2c6e:271 " ++
  "2c6f:250 2c70:252 2c73:2c72 2c76:2c75 2c7e-2c7f:23f 2c81-2ce3/2:2c80 2cec-2cee/2:2ceb 2cf3:2cf2 2d00-2d25:10a0 " ++
  "2d27:10c7 2d2d:10cd a641-a649/2:a640 a64a:1c88 a64b:1c88 a64d-a66d/2:a64c a681-a69b/2:a680 a723-a72f/2:a722 " ++
  "a733-a76f/2:a732 a77a-a77c/2:a779 a77d:1d79 a77f-a787/2:a77e a78c:a78b a78d:265 a791-a793/2:a790 " ++
  "a797-a7a9/2:a796 a7aa:266 a7ab:25c a7ac:261 a7ad:26c a7ae:26a a7b0:29e a7b1:287 a7b2:29d a7b5-a7c3/2:a7b4 " ++
  "a7c4:a794 a7c5:282 a7c6:1d8e a7c8-a7ca/2:a7c7 a7cb:264 a7cd-a7db/2:a7cc a7dc:19b a7f6:a7f5 ab53:a7b3 " ++
  "ab70-abbf:13a0 fb06:fb05 ff41-ff5a:ff21 10428-1044f:10400 104d8-104fb:104b0 10597-105a1:10570 " ++
  "105a3-105b1:1057c 105b3-105b9:1058c 105bb-105bc:10594 10cc0-10cf2:10c80 10d70-10d85:10d50 118c0-118df:118a0 " ++
  "16e60-16e7f:16e40 16ebb-16ed3:16ea0 1e922-1e943:1e900"

/-- The pairs of a run. -/
def pairsOfRun (cs : List Char) : List (Nat × Nat) :=
  let source := cs.takeWhile (· ≠ ':')
  let target := CharSet.hexValue ((cs.dropWhile (· ≠ ':')).drop 1)
  let (first, last) := CharSet.intervalOfText (source.takeWhile (· ≠ '/'))
  let step := if source.contains '/' then 2 else 1
  (List.range ((last - first) / step + 1)).map fun k => (first + k * step, target + k * step)

/-- Each character that is not the first of its kind, with the one that is. -/
def foldingPairs : List (Nat × Nat) :=
  ((foldingRuns.splitOn " ").filter (· ≠ "")).flatMap fun run => pairsOfRun run.toList

/-- The characters that differ from one of a set at most in letter case. -/
def CharSet.anyCase (s : CharSet) : CharSet :=
  let kinds := CharSet.ofIntervals ((foldingPairs.filter fun p => s.has p.1 || s.has p.2).map fun p => (p.2, p.2))
  let added := (foldingPairs.filter fun p => kinds.has p.2).flatMap fun p => [(p.1, p.1), (p.2, p.2)]
  .ofIntervals (s.intervals ++ added)

/-- The characters that differ from one of a set at most in the case of a letter from A to Z. -/
def CharSet.anyAsciiCase (s : CharSet) : CharSet :=
  let letters := foldingPairs.filter fun p => p.1 < 128
  .ofIntervals (s.intervals ++
    (letters.filter fun p => s.has p.1 || s.has p.2).flatMap fun p => [(p.1, p.1), (p.2, p.2)])

end Conveyor.Pattern
