import Casewise.Unicode.Table

/-!
# Letter case

How letters of different case belong together in Unicode 16.

* `foldCase` — a set with all characters that differ from one of its own in case only.
* `caseChanges` — the characters that a change of case changes.
-/

namespace Casewise.Unicode

/-- The simple folding of case: the characters that are folded, by the distance to what they are
folded to. -/
def foldings : List (Int × List String) :=
  [(0x20,
     ["41-5a c0-d6 d8-de 391-3a1 3a3-3ab 410-42f ff21-ff3a 10d50-10d65 118a0-118bf 16e40-16e5f"]),
   (0x307, ["b5"]),
   (0x1,
     ["100-12e/2 132-136/2 139-147/2 14a-176/2 179-17d/2 182 184 187 18b 191 198 1a0-1a4/2 1a7",
      "1ac 1af 1b3 1b5 1b8 1bc 1c5 1c8 1cb-1db/2 1de-1ee/2 1f2 1f4 1f8-21e/2 222-232/2 23b 241",
      "246-24e/2 370 372 376 3c2 3d8-3ee/2 3f7 3fa 460-480/2 48a-4be/2 4c1-4cd/2 4d0-52e/2 1c89",
      "1e00-1e94/2 1ea0-1efe/2 2183 2c60 2c67-2c6b/2 2c72 2c75 2c80-2ce2/2 2ceb 2ced 2cf2",
      "a640-a66c/2 a680-a69a/2 a722-a72e/2 a732-a76e/2 a779 a77b a77e-a786/2 a78b a790 a792",
      "a796-a7a8/2 a7b4-a7c2/2 a7c7 a7c9 a7cc a7d0 a7d6-a7da/2 a7f5 fb05"]),
   (-0x79, ["178"]),
   (-0x10C, ["17f"]),
   (0xD2, ["181"]),
   (0xCE, ["186"]),
   (0xCD, ["189-18a 193"]),
   (0x4F, ["18e"]),
   (0xCA, ["18f"]),
   (0xCB, ["190"]),
   (0xCF, ["194"]),
   (0xD3, ["196 19c"]),
   (0xD1, ["197"]),
   (0xD5, ["19d"]),
   (0xD6, ["19f"]),
   (0xDA, ["1a6 1a9 1ae"]),
   (0xD9, ["1b1-1b2"]),
   (0xDB, ["1b7"]),
   (0x2, ["1c4 1c7 1ca 1f1"]),
   (-0x61, ["1f6"]),
   (-0x38, ["1f7"]),
   (-0x82, ["220 3fd-3ff"]),
   (0x2A2B, ["23a"]),
   (-0xA3, ["23d"]),
   (0x2A28, ["23e"]),
   (-0xC3, ["243"]),
   (0x45, ["244"]),
   (0x47, ["245"]),
   (0x74, ["345 37f"]),
   (0x26, ["386"]),
   (0x25, ["388-38a"]),
   (0x40, ["38c 10c80-10cb2"]),
   (0x3F, ["38e-38f"]),
   (0x8, ["3cf"]),
   (-0x1E, ["3d0"]),
   (-0x19, ["3d1"]),
   (-0xF, ["3d5"]),
   (-0x16, ["3d6"]),
   (-0x36, ["3f0"]),
   (-0x30, ["3f1 a7c4"]),
   (-0x3C, ["3f4"]),
   (-0x40, ["3f5"]),
   (-0x7, ["3f9 1fec"]),
   (0x50, ["400-40f"]),
   (0xF, ["4c0"]),
   (0x30, ["531-556 2c00-2c2f"]),
   (0x1C60, ["10a0-10c5 10c7 10cd"]),
   (-0x8,
     ["13f8-13fd 1f08-1f0f 1f18-1f1d 1f28-1f2f 1f38-1f3f 1f48-1f4d 1f59-1f5f/2 1f68-1f6f",
      "1f88-1f8f 1f98-1f9f 1fa8-1faf 1fb8-1fb9 1fd8-1fd9 1fe8-1fe9"]),
   (-0x184E, ["1c80"]),
   (-0x184D, ["1c81"]),
   (-0x1844, ["1c82"]),
   (-0x1842, ["1c83-1c84"]),
   (-0x1843, ["1c85"]),
   (-0x183C, ["1c86"]),
   (-0x1824, ["1c87"]),
   (0x89C3, ["1c88"]),
   (-0xBC0, ["1c90-1cba 1cbd-1cbf"]),
   (-0x3A, ["1e9b"]),
   (-0x1DBF, ["1e9e"]),
   (-0x4A, ["1fba-1fbb"]),
   (-0x9, ["1fbc 1fcc 1ffc"]),
   (-0x1C05, ["1fbe"]),
   (-0x56, ["1fc8-1fcb"]),
   (-0x1C43, ["1fd3"]),
   (-0x64, ["1fda-1fdb"]),
   (-0x1C33, ["1fe3"]),
   (-0x70, ["1fea-1feb"]),
   (-0x80, ["1ff8-1ff9"]),
   (-0x7E, ["1ffa-1ffb"]),
   (-0x1D5D, ["2126"]),
   (-0x20BF, ["212a"]),
   (-0x2046, ["212b"]),
   (0x1C, ["2132"]),
   (0x10, ["2160-216f"]),
   (0x1A, ["24b6-24cf"]),
   (-0x29F7, ["2c62"]),
   (-0xEE6, ["2c63"]),
   (-0x29E7, ["2c64"]),
   (-0x2A1C, ["2c6d"]),
   (-0x29FD, ["2c6e"]),
   (-0x2A1F, ["2c6f"]),
   (-0x2A1E, ["2c70"]),
   (-0x2A3F, ["2c7e-2c7f"]),
   (-0x8A04, ["a77d"]),
   (-0xA528, ["a78d"]),
   (-0xA544, ["a7aa a7ae"]),
   (-0xA54F, ["a7ab"]),
   (-0xA54B, ["a7ac"]),
   (-0xA541, ["a7ad"]),
   (-0xA512, ["a7b0"]),
   (-0xA52A, ["a7b1"]),
   (-0xA515, ["a7b2"]),
   (0x3A0, ["a7b3"]),
   (-0xA543, ["a7c5"]),
   (-0x8A38, ["a7c6"]),
   (-0xA567, ["a7cb"]),
   (-0xA641, ["a7dc"]),
   (-0x97D0, ["ab70-abbf"]),
   (0x28, ["10400-10427 104b0-104d3"]),
   (0x27, ["10570-1057a 1057c-1058a 1058c-10592 10594-10595"]),
   (0x22, ["1e900-1e921"])]

/-- A character with the one that it is folded to, for all that are not folded to themselves. -/
def foldingPairs : List (Nat × Nat) :=
  foldings.flatMap fun row =>
    (CodeSet.ofLines row.2).ranges.flatMap fun r =>
      (List.range (r.2 + 1 - r.1)).map fun i => (r.1 + i, (((r.1 + i : Nat) : Int) + row.1).toNat)

/-- A set with all characters that are folded to the same as one of its own. -/
def foldCase (s : CodeSet) : CodeSet :=
  let pairs := foldingPairs
  let point (code : Nat) : Nat × Nat := (code, code)
  let targets := (pairs.filter fun p => s.contains p.1).map fun p => point p.2
  let s := s.union (.ofRanges targets)
  let sources := (pairs.filter fun p => s.contains p.2).map fun p => point p.1
  s.union (.ofRanges sources)

/-- A set of ASCII with the other case of its letters. -/
def foldAsciiCase (s : CodeSet) : CodeSet :=
  let upper := (s.inter (.range 0x41 0x5A)).ranges.map fun r => (r.1 + 0x20, r.2 + 0x20)
  let lower := (s.inter (.range 0x61 0x7A)).ranges.map fun r => (r.1 - 0x20, r.2 - 0x20)
  .ofRanges (s.ranges ++ upper ++ lower)

/-- The characters that a change to the named case changes. -/
def caseChanges : Table :=
  [(["changeswhenlowercased", "cwl"],
     ["41-5a c0-d6 d8-de 100-136/2 139-147/2 14a-176/2 178-179 17b 17d 181-182 184 186-187",
      "189-18b 18e-191 193-194 196-198 19c-19d 19f-1a0 1a2 1a4 1a6-1a7 1a9 1ac 1ae-1af 1b1-1b3",
      "1b5 1b7-1b8 1bc 1c4-1c5 1c7-1c8 1ca-1cb 1cd-1db/2 1de-1ee/2 1f1-1f2 1f4 1f6-1f8 1fa-232/2",
      "23a-23b 23d-23e 241 243-246 248-24e/2 370 372 376 37f 386 388-38a 38c 38e-38f 391-3a1",
      "3a3-3ab 3cf 3d8-3ee/2 3f4 3f7 3f9-3fa 3fd-42f 460-480/2 48a-4be/2 4c0-4c1 4c3-4cd/2",
      "4d0-52e/2 531-556 10a0-10c5 10c7 10cd 13a0-13f5 1c89 1c90-1cba 1cbd-1cbf 1e00-1e94/2",
      "1e9e-1efe/2 1f08-1f0f 1f18-1f1d 1f28-1f2f 1f38-1f3f 1f48-1f4d 1f59-1f5f/2 1f68-1f6f",
      "1f88-1f8f 1f98-1f9f 1fa8-1faf 1fb8-1fbc 1fc8-1fcc 1fd8-1fdb 1fe8-1fec 1ff8-1ffc 2126",
      "212a-212b 2132 2160-216f 2183 24b6-24cf 2c00-2c2f 2c60 2c62-2c64 2c67-2c6b/2 2c6d-2c70",
      "2c72 2c75 2c7e-2c80 2c82-2ce2/2 2ceb 2ced 2cf2 a640-a66c/2 a680-a69a/2 a722-a72e/2",
      "a732-a76e/2 a779 a77b a77d-a77e a780-a786/2 a78b a78d a790 a792 a796-a7a8/2 a7aa-a7ae",
      "a7b0-a7b4 a7b6-a7c2/2 a7c4-a7c7 a7c9 a7cb-a7cc a7d0 a7d6-a7dc/2 a7f5 ff21-ff3a",
      "10400-10427 104b0-104d3 10570-1057a 1057c-1058a 1058c-10592 10594-10595 10c80-10cb2",
      "10d50-10d65 118a0-118bf 16e40-16e5f 1e900-1e921"]),
   (["changeswhenuppercased", "cwu"],
     ["61-7a b5 df-f6 f8-ff 101-137/2 13a-146/2 148-149 14b-177/2 17a 17c 17e-180 183 185 188",
      "18c 192 195 199-19b 19e 1a1-1a5/2 1a8 1ad 1b0 1b4 1b6 1b9 1bd 1bf 1c5-1c6 1c8-1c9 1cb-1cc",
      "1ce-1da/2 1dc-1dd 1df-1ed/2 1ef-1f0 1f2-1f3 1f5 1f9-21f/2 223-233/2 23c 23f-240 242",
      "247-24d/2 24f-254 256-257 259 25b-25c 260-261 263-266 268-26c 26f 271-272 275 27d 280",
      "282-283 287-28c 292 29d-29e 345 371 373 377 37b-37d 390 3ac-3ce 3d0-3d1 3d5-3d7 3d9-3ed/2",
      "3ef-3f3 3f5 3f8 3fb 430-45f 461-481/2 48b-4bf/2 4c2-4cc/2 4ce-4cf 4d1-52f/2 561-587",
      "10d0-10fa 10fd-10ff 13f8-13fd 1c80-1c88 1c8a 1d79 1d7d 1d8e 1e01-1e93/2 1e95-1e9b",
      "1ea1-1efd/2 1eff-1f07 1f10-1f15 1f20-1f27 1f30-1f37 1f40-1f45 1f50-1f57 1f60-1f67",
      "1f70-1f7d 1f80-1fb4 1fb6-1fb7 1fbc 1fbe 1fc2-1fc4 1fc6-1fc7 1fcc 1fd0-1fd3 1fd6-1fd7",
      "1fe0-1fe7 1ff2-1ff4 1ff6-1ff7 1ffc 214e 2170-217f 2184 24d0-24e9 2c30-2c5f 2c61 2c65-2c66",
      "2c68-2c6c/2 2c73 2c76 2c81-2ce3/2 2cec 2cee 2cf3 2d00-2d25 2d27 2d2d a641-a66d/2",
      "a681-a69b/2 a723-a72f/2 a733-a76f/2 a77a a77c a77f-a787/2 a78c a791 a793-a794 a797-a7a9/2",
      "a7b5-a7c3/2 a7c8 a7ca a7cd a7d1 a7d7-a7db/2 a7f6 ab53 ab70-abbf fb00-fb06 fb13-fb17",
      "ff41-ff5a 10428-1044f 104d8-104fb 10597-105a1 105a3-105b1 105b3-105b9 105bb-105bc",
      "10cc0-10cf2 10d70-10d85 118c0-118df 16e60-16e7f 1e922-1e943"]),
   (["changeswhentitlecased", "cwt"],
     ["61-7a b5 df-f6 f8-ff 101-137/2 13a-146/2 148-149 14b-177/2 17a 17c 17e-180 183 185 188",
      "18c 192 195 199-19b 19e 1a1-1a5/2 1a8 1ad 1b0 1b4 1b6 1b9 1bd 1bf 1c4 1c6-1c7 1c9-1ca",
      "1cc-1da/2 1dc-1dd 1df-1ed/2 1ef-1f1 1f3 1f5 1f9-21f/2 223-233/2 23c 23f-240 242 247-24d/2",
      "24f-254 256-257 259 25b-25c 260-261 263-266 268-26c 26f 271-272 275 27d 280 282-283",
      "287-28c 292 29d-29e 345 371 373 377 37b-37d 390 3ac-3ce 3d0-3d1 3d5-3d7 3d9-3ed/2 3ef-3f3",
      "3f5 3f8 3fb 430-45f 461-481/2 48b-4bf/2 4c2-4cc/2 4ce-4cf 4d1-52f/2 561-587 13f8-13fd",
      "1c80-1c88 1c8a 1d79 1d7d 1d8e 1e01-1e93/2 1e95-1e9b 1ea1-1efd/2 1eff-1f07 1f10-1f15",
      "1f20-1f27 1f30-1f37 1f40-1f45 1f50-1f57 1f60-1f67 1f70-1f7d 1f80-1f87 1f90-1f97 1fa0-1fa7",
      "1fb0-1fb4 1fb6-1fb7 1fbe 1fc2-1fc4 1fc6-1fc7 1fd0-1fd3 1fd6-1fd7 1fe0-1fe7 1ff2-1ff4",
      "1ff6-1ff7 214e 2170-217f 2184 24d0-24e9 2c30-2c5f 2c61 2c65-2c66 2c68-2c6c/2 2c73 2c76",
      "2c81-2ce3/2 2cec 2cee 2cf3 2d00-2d25 2d27 2d2d a641-a66d/2 a681-a69b/2 a723-a72f/2",
      "a733-a76f/2 a77a a77c a77f-a787/2 a78c a791 a793-a794 a797-a7a9/2 a7b5-a7c3/2 a7c8 a7ca",
      "a7cd a7d1 a7d7-a7db/2 a7f6 ab53 ab70-abbf fb00-fb06 fb13-fb17 ff41-ff5a 10428-1044f",
      "104d8-104fb 10597-105a1 105a3-105b1 105b3-105b9 105bb-105bc 10cc0-10cf2 10d70-10d85",
      "118c0-118df 16e60-16e7f 1e922-1e943"]),
   (["changeswhencasefolded", "cwcf"],
     ["41-5a b5 c0-d6 d8-df 100-136/2 139-147/2 149-14a 14c-176/2 178-179 17b-17f/2 181-182 184",
      "186-187 189-18b 18e-191 193-194 196-198 19c-19d 19f-1a0 1a2 1a4 1a6-1a7 1a9 1ac 1ae-1af",
      "1b1-1b3 1b5 1b7-1b8 1bc 1c4-1c5 1c7-1c8 1ca-1cb 1cd-1db/2 1de-1ee/2 1f1-1f2 1f4 1f6-1f8",
      "1fa-232/2 23a-23b 23d-23e 241 243-246 248-24e/2 345 370 372 376 37f 386 388-38a 38c",
      "38e-38f 391-3a1 3a3-3ab 3c2 3cf-3d1 3d5-3d6 3d8-3ee/2 3f0-3f1 3f4-3f5 3f7 3f9-3fa 3fd-42f",
      "460-480/2 48a-4be/2 4c0-4c1 4c3-4cd/2 4d0-52e/2 531-556 587 10a0-10c5 10c7 10cd 13f8-13fd",
      "1c80-1c89 1c90-1cba 1cbd-1cbf 1e00-1e94/2 1e9a-1e9b 1e9e-1efe/2 1f08-1f0f 1f18-1f1d",
      "1f28-1f2f 1f38-1f3f 1f48-1f4d 1f59-1f5f/2 1f68-1f6f 1f80-1faf 1fb2-1fb4 1fb7-1fbc",
      "1fc2-1fc4 1fc7-1fcc 1fd8-1fdb 1fe8-1fec 1ff2-1ff4 1ff7-1ffc 2126 212a-212b 2132 2160-216f",
      "2183 24b6-24cf 2c00-2c2f 2c60 2c62-2c64 2c67-2c6b/2 2c6d-2c70 2c72 2c75 2c7e-2c80",
      "2c82-2ce2/2 2ceb 2ced 2cf2 a640-a66c/2 a680-a69a/2 a722-a72e/2 a732-a76e/2 a779 a77b",
      "a77d-a77e a780-a786/2 a78b a78d a790 a792 a796-a7a8/2 a7aa-a7ae a7b0-a7b4 a7b6-a7c2/2",
      "a7c4-a7c7 a7c9 a7cb-a7cc a7d0 a7d6-a7dc/2 a7f5 ab70-abbf fb00-fb06 fb13-fb17 ff21-ff3a",
      "10400-10427 104b0-104d3 10570-1057a 1057c-1058a 1058c-10592 10594-10595 10c80-10cb2",
      "10d50-10d65 118a0-118bf 16e40-16e5f 1e900-1e921"])]

end Casewise.Unicode
