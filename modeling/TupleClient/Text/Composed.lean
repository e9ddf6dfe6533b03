import TupleClient.Text.CharSet

/-!
# Composed text

A letter with marks can be written in several ways: as one character, or as a letter and marks after
it, which may come in any order if they stand at different places. In composed form marks are in the
order of their places, and a letter and a mark are one character where there is one for both.

The table of such characters is that of the letters that domains may have. Any other character is
taken as it is.

## Main definitions

* `Text.place` — where a mark stands
* `Text.decompose`, `Text.arrange`, `Text.join` — the three steps
* `Text.compose` — a text in composed form
-/

namespace TupleClient.Text

/-! ### Tables -/

/-- The characters that are a letter and a mark, with both of them. -/
def composites : CharMap := CharMap.ofTable
  ["E0>61.300 61.301 61.302 61.303 61.308 61.30A E7>63.327 65.300 65.301 65.302 65.308",
    "69.300 69.301 69.302 69.308 F1>6E.303 6F.300 6F.301 6F.302 6F.303 6F.308 F9>75.300",
    "75.301 75.302 75.308 79.301 FF>79.308 101>61.304 103>61.306 105>61.328 107>63.301",
    "109>63.302 10B>63.307 10D>63.30C 10F>64.30C 113>65.304 115>65.306 117>65.307 119>65.328",
    "11B>65.30C 11D>67.302 11F>67.306 121>67.307 123>67.327 125>68.302 129>69.303 12B>69.304",
    "12D>69.306 12F>69.328 135>6A.302 137>6B.327 13A>6C.301 13C>6C.327 13E>6C.30C 144>6E.301",
    "146>6E.327 148>6E.30C 14D>6F.304 14F>6F.306 151>6F.30B 155>72.301 157>72.327 159>72.30C",
    "15B>73.301 15D>73.302 15F>73.327 161>73.30C 163>74.327 165>74.30C 169>75.303 16B>75.304",
    "16D>75.306 16F>75.30A 171>75.30B 173>75.328 175>77.302 177>79.302 17A>7A.301 17C>7A.307",
    "17E>7A.30C 1A1>6F.31B 1B0>75.31B 1CE>61.30C 1D0>69.30C 1D2>6F.30C 1D4>75.30C 1D6>FC.304",
    "1D8>FC.301 1DA>FC.30C 1DC>FC.300 1DF>E4.304 1E1>227.304 1E3>E6.304 1E7>67.30C",
    "1E9>6B.30C 1EB>6F.328 1ED>1EB.304 1EF>292.30C 6A.30C 1F5>67.301 1F9>6E.300 1FB>E5.301",
    "1FD>E6.301 1FF>F8.301 201>61.30F 203>61.311 205>65.30F 207>65.311 209>69.30F 20B>69.311",
    "20D>6F.30F 20F>6F.311 211>72.30F 213>72.311 215>75.30F 217>75.311 219>73.326 21B>74.326",
    "21F>68.30C 227>61.307 229>65.327 22B>F6.304 22D>F5.304 22F>6F.307 231>22F.304",
    "233>79.304 390>3CA.301 3AC>3B1.301 3B5.301 3B7.301 3B9.301 3CB.301 3CA>3B9.308 3C5.308",
    "3BF.301 3C5.301 3C9.301 439>438.306 450>435.300 435.308 453>433.301 457>456.308",
    "45C>43A.301 438.300 443.306 477>475.30F 4C2>436.306 4D1>430.306 4D3>430.308 4D7>435.306",
    "4DB>4D9.308 4DD>436.308 4DF>437.308 4E3>438.304 4E5>438.308 4E7>43E.308 4EB>4E9.308",
    "4ED>44D.308 4EF>443.304 4F1>443.308 4F3>443.30B 4F5>447.308 4F9>44B.308 622>627.653",
    "627.654 648.654 627.655 64A.654 6C0>6D5.654 6C2>6C1.654 6D3>6D2.654 929>928.93C",
    "931>930.93C 934>933.93C 9CB>9C7.9BE 9C7.9D7 B48>B47.B56 B4B>B47.B3E B47.B57 B94>B92.BD7",
    "BCA>BC6.BBE BC7.BBE BC6.BD7 C48>C46.C56 CC0>CBF.CD5 CC7>CC6.CD5 CC6.CD6 CCA>CC6.CC2",
    "CCA.CD5 D4A>D46.D3E D47.D3E D46.D57 DDA>DD9.DCA DDC>DD9.DCF DDC.DCA DD9.DDF",
    "1026>1025.102E 1B06>1B05.1B35 1B08>1B07.1B35 1B0A>1B09.1B35 1B0C>1B0B.1B35",
    "1B0E>1B0D.1B35 1B12>1B11.1B35 1B3B>1B3A.1B35 1B3D>1B3C.1B35 1B40>1B3E.1B35 1B3F.1B35",
    "1B43>1B42.1B35 1E01>61.325 1E03>62.307 1E05>62.323 1E07>62.331 1E09>E7.301 1E0B>64.307",
    "1E0D>64.323 1E0F>64.331 1E11>64.327 1E13>64.32D 1E15>113.300 1E17>113.301 1E19>65.32D",
    "1E1B>65.330 1E1D>229.306 1E1F>66.307 1E21>67.304 1E23>68.307 1E25>68.323 1E27>68.308",
    "1E29>68.327 1E2B>68.32E 1E2D>69.330 1E2F>EF.301 1E31>6B.301 1E33>6B.323 1E35>6B.331",
    "1E37>6C.323 1E39>1E37.304 1E3B>6C.331 1E3D>6C.32D 1E3F>6D.301 1E41>6D.307 1E43>6D.323",
    "1E45>6E.307 1E47>6E.323 1E49>6E.331 1E4B>6E.32D 1E4D>F5.301 1E4F>F5.308 1E51>14D.300",
    "1E53>14D.301 1E55>70.301 1E57>70.307 1E59>72.307 1E5B>72.323 1E5D>1E5B.304 1E5F>72.331",
    "1E61>73.307 1E63>73.323 1E65>15B.307 1E67>161.307 1E69>1E63.307 1E6B>74.307 1E6D>74.323",
    "1E6F>74.331 1E71>74.32D 1E73>75.324 1E75>75.330 1E77>75.32D 1E79>169.301 1E7B>16B.308",
    "1E7D>76.303 1E7F>76.323 1E81>77.300 1E83>77.301 1E85>77.308 1E87>77.307 1E89>77.323",
    "1E8B>78.307 1E8D>78.308 1E8F>79.307 1E91>7A.302 1E93>7A.323 1E95>7A.331 68.331 74.308",
    "77.30A 79.30A 1EA1>61.323 1EA3>61.309 1EA5>E2.301 1EA7>E2.300 1EA9>E2.309 1EAB>E2.303",
    "1EAD>1EA1.302 1EAF>103.301 1EB1>103.300 1EB3>103.309 1EB5>103.303 1EB7>1EA1.306",
    "1EB9>65.323 1EBB>65.309 1EBD>65.303 1EBF>EA.301 1EC1>EA.300 1EC3>EA.309 1EC5>EA.303",
    "1EC7>1EB9.302 1EC9>69.309 1ECB>69.323 1ECD>6F.323 1ECF>6F.309 1ED1>F4.301 1ED3>F4.300",
    "1ED5>F4.309 1ED7>F4.303 1ED9>1ECD.302 1EDB>1A1.301 1EDD>1A1.300 1EDF>1A1.309",
    "1EE1>1A1.303 1EE3>1A1.323 1EE5>75.323 1EE7>75.309 1EE9>1B0.301 1EEB>1B0.300",
    "1EED>1B0.309 1EEF>1B0.303 1EF1>1B0.323 1EF3>79.300 1EF5>79.323 1EF7>79.309 1EF9>79.303",
    "1F00>3B1.313 3B1.314 1F00.300 1F01.300 1F00.301 1F01.301 1F00.342 1F01.342 1F10>3B5.313",
    "3B5.314 1F10.300 1F11.300 1F10.301 1F11.301 1F20>3B7.313 3B7.314 1F20.300 1F21.300",
    "1F20.301 1F21.301 1F20.342 1F21.342 1F30>3B9.313 3B9.314 1F30.300 1F31.300 1F30.301",
    "1F31.301 1F30.342 1F31.342 1F40>3BF.313 3BF.314 1F40.300 1F41.300 1F40.301 1F41.301",
    "1F50>3C5.313 3C5.314 1F50.300 1F51.300 1F50.301 1F51.301 1F50.342 1F51.342 1F60>3C9.313",
    "3C9.314 1F60.300 1F61.300 1F60.301 1F61.301 1F60.342 1F61.342 1F70>3B1.300 1F72>3B5.300",
    "1F74>3B7.300 1F76>3B9.300 1F78>3BF.300 1F7A>3C5.300 1F7C>3C9.300 1FB0>3B1.306 3B1.304",
    "1FB6>3B1.342 1FC6>3B7.342 1FD0>3B9.306 3B9.304 3CA.300 1FD6>3B9.342 3CA.342",
    "1FE0>3C5.306 3C5.304 3CB.300 1FE4>3C1.313 3C1.314 3C5.342 3CB.342 1FF6>3C9.342",
    "219A>2190.338 2192.338 21AE>2194.338 21CD>21D0.338 21D4.338 21D2.338 2204>2203.338",
    "2209>2208.338 220C>220B.338 2224>2223.338 2226>2225.338 2241>223C.338 2244>2243.338",
    "2247>2245.338 2249>2248.338 2260>3D.338 2262>2261.338 226D>224D.338 3C.338 3E.338",
    "2264.338 2265.338 2274>2272.338 2273.338 2278>2276.338 2277.338 2280>227A.338 227B.338",
    "2284>2282.338 2283.338 2288>2286.338 2287.338 22AC>22A2.338 22A8.338 22A9.338 22AB.338",
    "22E0>227C.338 227D.338 2291.338 2292.338 22EA>22B2.338 22B3.338 22B4.338 22B5.338",
    "304C>304B.3099 304E>304D.3099 3050>304F.3099 3052>3051.3099 3054>3053.3099",
    "3056>3055.3099 3058>3057.3099 305A>3059.3099 305C>305B.3099 305E>305D.3099",
    "3060>305F.3099 3062>3061.3099 3065>3064.3099 3067>3066.3099 3069>3068.3099",
    "3070>306F.3099 306F.309A 3073>3072.3099 3072.309A 3076>3075.3099 3075.309A",
    "3079>3078.3099 3078.309A 307C>307B.3099 307B.309A 3094>3046.3099 309E>309D.3099",
    "30AC>30AB.3099 30AE>30AD.3099 30B0>30AF.3099 30B2>30B1.3099 30B4>30B3.3099",
    "30B6>30B5.3099 30B8>30B7.3099 30BA>30B9.3099 30BC>30BB.3099 30BE>30BD.3099",
    "30C0>30BF.3099 30C2>30C1.3099 30C5>30C4.3099 30C7>30C6.3099 30C9>30C8.3099",
    "30D0>30CF.3099 30CF.309A 30D3>30D2.3099 30D2.309A 30D6>30D5.3099 30D5.309A",
    "30D9>30D8.3099 30D8.309A 30DC>30DB.3099 30DB.309A 30F4>30A6.3099 30F7>30EF.3099",
    "30F0.3099 30F1.3099 30F2.3099 30FE>30FD.3099 105C9>105D2.307 105E4>105DA.307",
    "1109A>11099.110BA 1109C>1109B.110BA 110AB>110A5.110BA 1112E>11131.11127 11132.11127",
    "1134B>11347.1133E 11347.11357 11383>11382.113C9 11385>11384.113BB 1138E>1138B.113C2",
    "11391>11390.113C9 113C5>113C2.113C2 113C7>113C2.113B8 113C2.113C9 114BB>114B9.114BA",
    "114B9.114B0 114BE>114B9.114BD 115BA>115B8.115AF 115B9.115AF 11938>11935.11930",
    "16121>1611E.1611E 1611E.16129 1611E.1611F 16129.1611F 1611E.16120 16121.1611F",
    "16122.1611F 16121.16120 16D68>16D67.16D67 16D63.16D67 16D69.16D67"]

/-- The marks that have a place, by the number of their place. -/
def placeTable : List (Nat × List String) :=
  [(1, ["334-338 1CD4 1CE2-1CE8 20D2-20D3 20D8-20DA 20E5-20E6 20EA-20EB 10A39 16AF0-16AF4 1BC9E",
      "1D167-1D169"]),
    (6, ["16FF0-16FF1"]),
    (7, ["93C 9BC A3C ABC B3C C3C CBC 1037 1B34 1BE6 1C37 A9B3 110BA 11173 111CA 11236 112E9",
      "1133B-1133C 11446 114C3 115C0 116B7 1183A 11943 11D42 1E94A"]),
    (8, ["3099-309A"]),
    (9, ["94D 9CD A4D ACD B4D BCD C4D CCD D3B-D3C D4D DCA E3A EBA F84 1039-103A 1714-1715 1734",
      "17D2 1A60 1B44 1BAA-1BAB 1BF2-1BF3 2D7F A806 A82C A8C4 A953 A9C0 AAF6 ABED 10A3F 11046",
      "11070 1107F 110B9 11133-11134 111C0 11235 112EA 1134D 113CE-113D0 11442 114C2 115BF",
      "1163F 116B6 1172B 11839 1193D-1193E 119E0 11A34 11A47 11A99 11C3F 11D44-11D45 11D97",
      "11F41-11F42 1612F"]),
    (10, ["5B0"]),
    (11, ["5B1"]),
    (12, ["5B2"]),
    (13, ["5B3"]),
    (14, ["5B4"]),
    (15, ["5B5"]),
    (16, ["5B6"]),
    (17, ["5B7"]),
    (18, ["5B8 5C7"]),
    (19, ["5B9-5BA"]),
    (20, ["5BB"]),
    (21, ["5BC"]),
    (22, ["5BD"]),
    (23, ["5BF"]),
    (24, ["5C1"]),
    (25, ["5C2"]),
    (26, ["FB1E"]),
    (27, ["64B 8F0"]),
    (28, ["64C 8F1"]),
    (29, ["64D 8F2"]),
    (30, ["618 64E"]),
    (31, ["619 64F"]),
    (32, ["61A 650"]),
    (33, ["651"]),
    (34, ["652"]),
    (35, ["670"]),
    (36, ["711"]),
    (84, ["C55"]),
    (91, ["C56"]),
    (103, ["E38-E39"]),
    (107, ["E48-E4B"]),
    (118, ["EB8-EB9"]),
    (122, ["EC8-ECB"]),
    (129, ["F71"]),
    (130, ["F72 F7A-F7D F80"]),
    (132, ["F74"]),
    (202, ["321-322 327-328 1DD0"]),
    (214, ["1DCE"]),
    (216, ["31B F39 1D165-1D166 1D16E-1D172"]),
    (218, ["1DFA 302A"]),
    (220, ["316-319 31C-320 323-326 329-333 339-33C 347-349 34D-34E 353-356 359-35A 591 596 59B",
      "5A2-5A7 5AA 5C5 655-656 65C 65F 6E3 6EA 6ED 731 734 737-739 73B-73C 73E 742 744 746 748",
      "7F2 7FD 859-85B 899-89B 8CF-8D3 8E3 8E6 8E9 8ED-8EF 8F6 8F9-8FA 952 F18-F19 F35 F37 FC6",
      "108D 193B 1A18 1A7F 1AB5-1ABA 1ABD 1ABF-1AC0 1AC3-1AC4 1ACA 1ADD 1AE6 1B6C 1CD5-1CD9",
      "1CDC-1CDF 1CED 1DC2 1DCA 1DCF 1DF9 1DFD 1DFF 20E8 20EC-20EF A92B-A92D AAB4 FE27-FE2D",
      "101FD 102E0 10A0D 10A3A 10AE6 10EFA-10EFB 10EFD-10EFF 10F46-10F47 10F4B 10F4D-10F50",
      "10F83 10F85 1D17B-1D182 1D18A-1D18B 1E4EE 1E5EF 1E8D0-1E8D6"]),
    (222, ["59A 5AD 1939 302D"]),
    (224, ["302E-302F"]),
    (226, ["1D16D"]),
    (228, ["5AE 18A9 1DF7-1DF8 302B"]),
    (230, ["300-314 33D-344 346 34A-34C 350-352 357 35B 363-36F 483-487 592-595 597-599 59C-5A1",
      "5A8-5A9 5AB-5AC 5AF 5C4 610-617 653-654 657-65B 65D-65E 6D6-6DC 6DF-6E2 6E4 6E7-6E8",
      "6EB-6EC 730 732-733 735-736 73A 73D 73F-741 743 745 747 749-74A 7EB-7F1 7F3 816-819",
      "81B-823 825-827 829-82D 897-898 89C-89F 8CA-8CE 8D4-8E1 8E4-8E5 8E7-8E8 8EA-8EC 8F3-8F5",
      "8F7-8F8 8FB-8FF 951 953-954 9FE F82-F83 F86-F87 135D-135F 17DD 193A 1A17 1A75-1A7C",
      "1AB0-1AB4 1ABB-1ABC 1AC1-1AC2 1AC5-1AC9 1ACB-1ADC 1AE0-1AE5 1AE7-1AEA 1B6B 1B6D-1B73",
      "1CD0-1CD2 1CDA-1CDB 1CE0 1CF4 1CF8-1CF9 1DC0-1DC1 1DC3-1DC9 1DCB-1DCC 1DD1-1DF5 1DFB",
      "1DFE 20D0-20D1 20D4-20D7 20DB-20DC 20E1 20E7 20E9 20F0 2CEF-2CF1 2DE0-2DFF A66F",
      "A674-A67D A69E-A69F A6F0-A6F1 A8E0-A8F1 AAB0 AAB2-AAB3 AAB7-AAB8 AABE-AABF AAC1",
      "FE20-FE26 FE2E-FE2F 10376-1037A 10A0F 10A38 10AE5 10D24-10D27 10D69-10D6D 10EAB-10EAC",
      "10F48-10F4A 10F4C 10F82 10F84 11100-11102 11366-1136C 11370-11374 1145E 16B30-16B36",
      "1D185-1D189 1D1AA-1D1AD 1D242-1D244 1E000-1E006 1E008-1E018 1E01B-1E021 1E023-1E024",
      "1E026-1E02A 1E08F 1E130-1E136 1E2AE 1E2EC-1E2EF 1E4EF 1E5EE 1E6E3 1E6E6 1E6EE-1E6EF",
      "1E6F5 1E944-1E949"]),
    (232, ["315 31A 358 1DF6 302C 1E4EC-1E4ED"]),
    (233, ["35C 35F 362 1DFC"]),
    (234, ["35D-35E 360-361 1AEB 1DCD"]),
    (240, ["345"])]

/-- The marks that have a place, as sets. -/
def places : List (Nat × CharSet) :=
  placeTable.map fun entry => (entry.1, CharSet.ofTable entry.2)

/-- The number of the place of a mark; zero if a character has none. -/
def place (c : Char) : Nat :=
  if c.toNat < 0x300 then 0
  else ((places.find? fun entry => entry.2.contains c).map Prod.fst).getD 0

/-! ### Syllables -/

/-- The first Korean syllable. A syllable consists of one of nineteen initial letters, one of
twenty-one medial ones and perhaps one of twenty-seven final ones, and is numbered by them. -/
def firstSyllable : Nat := 0xAC00

/-- The last Korean syllable. -/
def lastSyllable : Nat := 0xD7A3

/-- The first of the initial letters. -/
def firstInitial : Nat := 0x1100

/-- The first of the medial letters. -/
def firstMedial : Nat := 0x1161

/-- The code point before the first of the final letters. -/
def beforeFinals : Nat := 0x11A7

/-- Whether a character is a syllable. -/
def isSyllable (c : Char) : Bool := firstSyllable ≤ c.toNat && c.toNat ≤ lastSyllable

/-- The syllable that an initial and a medial letter make, or a syllable and its final letter. -/
def joinSyllable? (a b : Char) : Option Char :=
  let initial := a.toNat - firstInitial
  let medial := b.toNat - firstMedial
  let final := b.toNat - beforeFinals
  if firstInitial ≤ a.toNat && initial < 19 && firstMedial ≤ b.toNat && medial < 21 then
    some (Char.ofNat (firstSyllable + (initial * 21 + medial) * 28))
  else if isSyllable a && (a.toNat - firstSyllable) % 28 = 0 && 0 < final && final < 28 then
    some (Char.ofNat (a.toNat + final))
  else none

/-- The letters of a syllable. -/
def splitSyllable? (c : Char) : Option (List Char) :=
  if isSyllable c then
    let index := c.toNat - firstSyllable
    let initial := Char.ofNat (firstInitial + index / 588)
    let medial := Char.ofNat (firstMedial + index % 588 / 28)
    let final := if index % 28 = 0 then [] else [Char.ofNat (beforeFinals + index % 28)]
    some (initial :: medial :: final)
  else none

/-! ### Steps -/

/-- The letter of a character and its marks. The letter of a composite may be a composite itself, of
at most `depth` marks. -/
def decomposeChar (depth : Nat) (c : Char) : List Char :=
  match depth with
  | 0 => [c]
  | depth + 1 =>
    match splitSyllable? c, composites.find? c with
    | some letters, _ => letters
    | none, some (letter :: marks) => decomposeChar depth letter ++ marks
    | none, _ => [c]

/-- A text without composites. No character has more than three marks. -/
def decompose (cs : List Char) : List Char :=
  cs.flatMap fun c => if c.toNat < 0x80 then [c] else decomposeChar 3 c

/-- A mark put among the marks at the beginning of a text, after those whose places come before its
own. -/
def insertMark (mark : Char) : List Char → List Char
  | [] => [mark]
  | c :: rest =>
    if place c ≠ 0 && place c < place mark then c :: insertMark mark rest else mark :: c :: rest

/-- A text with the marks after each letter in the order of their places. Marks at one place stay in
their order. -/
def arrange (cs : List Char) : List Char :=
  cs.foldr (fun c rest => if place c = 0 then c :: rest else insertMark c rest) []

/-- The character that two characters make. -/
def joinPair? (a b : Char) : Option Char :=
  (joinSyllable? a b).or
    ((composites.runs.find? fun r => r.image == [a.toNat, b.toNat]).map fun r => Char.ofNat r.first)

/-- A letter joined to what follows it, and all letters after it likewise. A mark is kept from the
letter by one before it that stays and has the same place; `between` are those that stay, last one
first. -/
def joinTo (letter : Char) (between : List Char) : List Char → List Char
  | [] => letter :: between.reverse
  | c :: rest =>
    let blocked := between.head?.any fun last => place c ≤ place last
    match if blocked then none else joinPair? letter c with
    | some joined => joinTo joined between rest
    | none =>
      if place c = 0 then letter :: between.reverse ++ joinTo c [] rest
      else joinTo letter (c :: between) rest

/-- A text whose letters are joined to their marks. Marks before the first letter stay. -/
def join (cs : List Char) : List Char :=
  let leading := cs.takeWhile (place · ≠ 0)
  match cs.dropWhile (place · ≠ 0) with
  | [] => leading
  | letter :: rest => leading ++ joinTo letter [] rest

/-- A text in composed form. -/
def compose (cs : List Char) : List Char :=
  if cs.all (·.toNat < 0x80) then cs else join (arrange (decompose cs))

end TupleClient.Text
