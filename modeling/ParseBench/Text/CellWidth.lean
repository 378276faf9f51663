import ParseBench.Text.Runs

set_option relaxedAutoImplicit false
set_option autoImplicit false

/-!
# Terminal cells

On a terminal an ideograph or an emoji takes two cells, and a combining mark, a control or an
invisible character takes none. A character that is joined to the one before it takes none either,
and a selector may ask for the emoji form of a narrow character, which takes one cell more.

## Main definitions

* `ParseBench.Text.charCells` — the number of cells of a character.
* `ParseBench.Text.cellWidth` — the number of cells of a text.
* `ParseBench.Text.clusters` — the characters of a text that are shown in one place.
* `ParseBench.Text.fitCells` — a text cut or padded to a number of cells.
* `ParseBench.Text.chopCells` — a text cut into pieces of at most a number of cells.
-/

namespace ParseBench.Text

/-! ## Tables -/

/-- The code points that take no cell: marks, formats, invisible letters and modifiers. -/
def zeroWidth : Toggles :=
  .ofTable
    "0 20 7F A0 300 370 483 48A 591 5BE 5BF 5C0 5C1 5C3 5C4 5C6 5C7 5C8 600 606 610 61B 61C 61D 64B
    660 670 671 6D6 6DE 6DF 6E5 6E7 6E9 6EA 6EE 70F 710 711 712 730 74B 7A6 7B1 7EB 7F4 7FD 7FE 816
    81A 81B 824 825 828 829 82E 859 85C 890 892 897 8A0 8CA 904 93A 93D 93E 950 951 958 962 964 981
    984 9BC 9BD 9BE 9C5 9C7 9C9 9CB 9CE 9D7 9D8 9E2 9E4 9FE 9FF A01 A04 A3C A3D A3E A43 A47 A49 A4B
    A4E A51 A52 A70 A72 A75 A76 A81 A84 ABC ABD ABE AC6 AC7 ACA ACB ACE AE2 AE4 AFA B00 B01 B04 B3C
    B3D B3E B45 B47 B49 B4B B4E B55 B58 B62 B64 B82 B83 BBE BC3 BC6 BC9 BCA BCE BD7 BD8 C00 C05 C3C
    C3D C3E C45 C46 C49 C4A C4E C55 C57 C62 C64 C81 C84 CBC CBD CBE CC5 CC6 CC9 CCA CCE CD5 CD7 CE2
    CE4 CF3 CF4 D00 D04 D3B D3D D3E D45 D46 D49 D4A D4E D57 D58 D62 D64 D81 D84 DCA DCB DCF DD5 DD6
    DD7 DD8 DE0 DF2 DF4 E31 E32 E34 E3B E47 E4F EB1 EB2 EB4 EBD EC8 ECF F18 F1A F35 F36 F37 F38 F39
    F3A F3E F40 F71 F85 F86 F88 F8D F98 F99 FBD FC6 FC7 102B 103F 1056 105A 105E 1061 1062 1065 1067
    106E 1071 1075 1082 108E 108F 1090 109A 109E 1160 1200 135D 1360 1712 1716 1732 1735 1752 1754
    1772 1774 17B4 17D4 17DD 17DE 180B 1810 1885 1887 18A9 18AA 1920 192C 1930 193C 1A17 1A1C 1A55
    1A5F 1A60 1A7D 1A7F 1A80 1AB0 1ADE 1AE0 1AEC 1B00 1B05 1B34 1B45 1B6B 1B74 1B80 1B83 1BA1 1BAE
    1BE6 1BF4 1C24 1C38 1CD0 1CD3 1CD4 1CE9 1CED 1CEE 1CF4 1CF5 1CF7 1CFA 1DC0 1E00 200B 2010 2028
    202F 2060 2070 20D0 20F1 2CEF 2CF2 2D7F 2D80 2DE0 2E00 302A 3030 3099 309B 3164 3165 A66F A673
    A674 A67E A69E A6A0 A6F0 A6F2 A802 A803 A806 A807 A80B A80C A823 A828 A82C A82D A880 A882 A8B4
    A8C6 A8E0 A8F2 A8FF A900 A926 A92E A947 A954 A980 A984 A9B3 A9C1 A9E5 A9E6 AA29 AA37 AA43 AA44
    AA4C AA4E AA7B AA7E AAB0 AAB1 AAB2 AAB5 AAB7 AAB9 AABE AAC0 AAC1 AAC2 AAEB AAF0 AAF5 AAF7 ABE3
    ABEB ABEC ABEE D7B0 D800 FB1E FB1F FE00 FE10 FE20 FE30 FEFF FF00 FFA0 FFA1 FFF0 FFFC 101FD 101FE
    102E0 102E1 10376 1037B 10A01 10A04 10A05 10A07 10A0C 10A10 10A38 10A3B 10A3F 10A40 10AE5 10AE7
    10D24 10D28 10D69 10D6E 10EAB 10EAD 10EFA 10F00 10F46 10F51 10F82 10F86 11000 11003 11038 11047
    11070 11071 11073 11075 1107F 11083 110B0 110BB 110BD 110BE 110C2 110C3 110CD 110CE 11100 11103
    11127 11135 11145 11147 11173 11174 11180 11183 111B3 111C1 111C9 111CD 111CE 111D0 1122C 11238
    1123E 1123F 11241 11242 112DF 112EB 11300 11304 1133B 1133D 1133E 11345 11347 11349 1134B 1134E
    11357 11358 11362 11364 11366 1136D 11370 11375 113B8 113C1 113C2 113C3 113C5 113C6 113C7 113CB
    113CC 113D1 113D2 113D3 113E1 113E3 11435 11447 1145E 1145F 114B0 114C4 115AF 115B6 115B8 115C1
    115DC 115DE 11630 11641 116AB 116B8 1171D 1172C 1182C 1183B 11930 11936 11937 11939 1193B 1193F
    11940 11941 11942 11944 119D1 119D8 119DA 119E1 119E4 119E5 11A01 11A0B 11A33 11A3A 11A3B 11A3F
    11A47 11A48 11A51 11A5C 11A8A 11A9A 11B60 11B68 11C2F 11C37 11C38 11C40 11C92 11CA8 11CA9 11CB7
    11D31 11D37 11D3A 11D3B 11D3C 11D3E 11D3F 11D46 11D47 11D48 11D8A 11D8F 11D90 11D92 11D93 11D98
    11EF3 11EF7 11F00 11F02 11F03 11F04 11F34 11F3B 11F3E 11F43 11F5A 11F5B 13430 13441 13447 13456
    1611E 16130 16AF0 16AF5 16B30 16B37 16F4F 16F50 16F51 16F88 16F8F 16F93 16FE4 16FE5 16FF0 16FF2
    1BC9D 1BC9F 1BCA0 1BCA4 1CF00 1CF2E 1CF30 1CF47 1D165 1D16A 1D16D 1D183 1D185 1D18C 1D1AA 1D1AE
    1D242 1D245 1DA00 1DA37 1DA3B 1DA6D 1DA75 1DA76 1DA84 1DA85 1DA9B 1DAA0 1DAA1 1DAB0 1E000 1E007
    1E008 1E019 1E01B 1E022 1E023 1E025 1E026 1E02B 1E08F 1E090 1E130 1E137 1E2AE 1E2AF 1E2EC 1E2F0
    1E4EC 1E4F0 1E5EE 1E5F0 1E6E3 1E6E4 1E6E6 1E6E7 1E6EE 1E6F0 1E6F5 1E6F6 1E8D0 1E8D7 1E944 1E94B
    1F3FB 1F400 E0000 E1000"

/-- The code points that take two cells. -/
def doubleWidth : Toggles :=
  .ofTable
    "1100 1160 231A 231C 2329 232B 23E9 23ED 23F0 23F1 23F3 23F4 25FD 25FF 2614 2616 2630 2638 2648
    2654 267F 2680 268A 2690 2693 2694 26A1 26A2 26AA 26AC 26BD 26BF 26C4 26C6 26CE 26CF 26D4 26D5
    26EA 26EB 26F2 26F4 26F5 26F6 26FA 26FB 26FD 26FE 2705 2706 270A 270C 2728 2729 274C 274D 274E
    274F 2753 2756 2757 2758 2795 2798 27B0 27B1 27BF 27C0 2B1B 2B1D 2B50 2B51 2B55 2B56 2E80 2E9A
    2E9B 2EF4 2F00 2FD6 2FF0 302A 3030 303F 3041 3097 309B 3100 3105 3130 3131 3164 3165 318F 3190
    31E6 31EF 321F 3220 3248 3250 A48D A490 A4C7 A960 A97D AC00 D7A4 F900 FB00 FE10 FE1A FE30 FE53
    FE54 FE67 FE68 FE6C FF01 FF61 FFE0 FFE7 16FE0 16FE4 16FF2 16FF7 17000 18CD6 18CFF 18D1F 18D80
    18DF3 1AFF0 1AFF4 1AFF5 1AFFC 1AFFD 1AFFF 1B000 1B123 1B132 1B133 1B150 1B153 1B155 1B156 1B164
    1B168 1B170 1B2FC 1D300 1D357 1D360 1D377 1F004 1F005 1F0CF 1F0D0 1F18E 1F18F 1F191 1F19B 1F200
    1F203 1F210 1F23C 1F240 1F249 1F250 1F252 1F260 1F266 1F300 1F321 1F32D 1F336 1F337 1F37D 1F37E
    1F394 1F3A0 1F3CB 1F3CF 1F3D4 1F3E0 1F3F1 1F3F4 1F3F5 1F3F8 1F3FB 1F400 1F43F 1F440 1F441 1F442
    1F4FD 1F4FF 1F53E 1F54B 1F54F 1F550 1F568 1F57A 1F57B 1F595 1F597 1F5A4 1F5A5 1F5FB 1F650 1F680
    1F6C6 1F6CC 1F6CD 1F6D0 1F6D3 1F6D5 1F6D9 1F6DC 1F6E0 1F6EB 1F6ED 1F6F4 1F6FD 1F7E0 1F7EC 1F7F0
    1F7F1 1F90C 1F93B 1F93C 1F946 1F947 1FA00 1FA70 1FA7D 1FA80 1FA8B 1FA8E 1FAC7 1FAC8 1FAC9 1FACD
    1FADD 1FADF 1FAEB 1FAEF 1FAF9 20000 2FFFE 30000 3FFFE"

/-- The narrow characters that have an emoji form of two cells. -/
def narrowEmoji : Toggles :=
  .ofTable
    "23 24 2A 2B 30 3A A9 AA AE AF 203C 203D 2049 204A 2122 2123 2139 213A 2194 219A 21A9 21AB 2328
    2329 23CF 23D0 23ED 23F0 23F1 23F3 23F8 23FB 24C2 24C3 25AA 25AC 25B6 25B7 25C0 25C1 25FB 25FD
    2600 2605 260E 260F 2611 2612 2618 2619 261D 261E 2620 2621 2622 2624 2626 2627 262A 262B 262E
    2630 2638 263B 2640 2641 2642 2643 265F 2661 2663 2664 2665 2667 2668 2669 267B 267C 267E 267F
    2692 2693 2694 2698 2699 269A 269B 269D 26A0 26A1 26A7 26A8 26B0 26B2 26C8 26C9 26CF 26D0 26D1
    26D2 26D3 26D4 26E9 26EA 26F0 26F2 26F4 26F5 26F7 26FA 2702 2703 2708 270A 270C 270E 270F 2710
    2712 2713 2714 2715 2716 2717 271D 271E 2721 2722 2733 2735 2744 2745 2747 2748 2763 2765 27A1
    27A2 2934 2936 2B05 2B08 1F170 1F172 1F17E 1F180 1F321 1F322 1F324 1F32D 1F336 1F337 1F37D 1F37E
    1F396 1F398 1F399 1F39C 1F39E 1F3A0 1F3CB 1F3CF 1F3D4 1F3E0 1F3F3 1F3F4 1F3F5 1F3F6 1F3F7 1F3F8
    1F43F 1F440 1F441 1F442 1F4FD 1F4FE 1F549 1F54B 1F56F 1F571 1F573 1F57A 1F587 1F588 1F58A 1F58E
    1F590 1F591 1F5A5 1F5A6 1F5A8 1F5A9 1F5B1 1F5B3 1F5BC 1F5BD 1F5C2 1F5C5 1F5D1 1F5D4 1F5DC 1F5DF
    1F5E1 1F5E2 1F5E3 1F5E4 1F5E8 1F5E9 1F5EF 1F5F0 1F5F3 1F5F4 1F5FA 1F5FB 1F6CB 1F6CC 1F6CD 1F6D0
    1F6E0 1F6E6 1F6E9 1F6EA 1F6F0 1F6F1 1F6F3 1F6F4"

/-! ## Widths -/

/-- The number of cells of a character on its own. -/
def charCells (c : Char) : Nat :=
  let n := c.toNat
  if n < 0x20 || (0x7F ≤ n && n < 0xA0) then 0
  else if n < 0x7F then 1
  else if zeroWidth.holds n then 0
  else if doubleWidth.holds n then 2
  else 1

/-- What joins the next character to the one before. -/
def joiner : Char := Char.ofNat 0x200D

/-- What asks for the emoji form of the character before. -/
def emojiSelector : Char := Char.ofNat 0xFE0F

/-- The number of cells that a selector adds to the last character with a width. -/
def selectorCells (last : Option Char) : Nat :=
  match last with
  | some c => if narrowEmoji.holds c.toNat then 1 else 0
  | none => 0

/-- The number of cells of a text; `last` is the last character with a width that no selector has
followed. -/
def cellsFrom (last : Option Char) : List Char → Nat
  | [] => 0
  | c :: rest =>
    if c == joiner then
      match rest with
      | [] => 0
      | _ :: after => cellsFrom last after
    else if c == emojiSelector then selectorCells last + cellsFrom none rest
    else
      let n := charCells c
      n + cellsFrom (if n == 0 then last else some c) rest

/-- The number of cells of a text. -/
def cellWidth (s : List Char) : Nat := cellsFrom none s

/-! ## Clusters -/

/-- The characters that are shown in one place, and the number of their cells. -/
structure Cluster where
  chars : List Char
  cells : Nat
deriving DecidableEq, Repr

/-- Adds characters without a width to the last of some clusters, which come in reverse. -/
def joinLast (cs : List Char) (more : Nat) : List Cluster → List Cluster
  | [] => [⟨cs, more⟩]
  | last :: before => ⟨last.chars ++ cs, last.cells + more⟩ :: before

/-- The clusters of a text, in reverse; `last` is as for `cellsFrom`. -/
def clustersFrom (last : Option Char) (done : List Cluster) : List Char → List Cluster
  | [] => done
  | c :: rest =>
    if (c == joiner || c == emojiSelector) && done.isEmpty then clustersFrom last [⟨[c], 0⟩] rest
    else if c == joiner then
      match rest with
      | [] => joinLast [c] 0 done
      | d :: after => clustersFrom last (joinLast [c, d] 0 done) after
    else if c == emojiSelector then
      clustersFrom (if selectorCells last == 0 then last else none) (joinLast [c] (selectorCells last) done) rest
    else
      let n := charCells c
      if n == 0 then clustersFrom last (joinLast [c] 0 done) rest
      else clustersFrom (some c) (⟨[c], n⟩ :: done) rest

/-- The characters of a text that are shown in one place each. -/
def clusters (s : List Char) : List Cluster := (clustersFrom none [] s).reverse

/-- The clusters that fit in a number of cells; a cluster that only fits in part leaves a space. -/
def takeCells (width : Nat) : List Cluster → List Char
  | [] => []
  | k :: rest =>
    if width == 0 then []
    else if k.cells ≤ width then k.chars ++ takeCells (width - k.cells) rest
    else [' ']

/-- A text cut or padded to a number of cells. -/
def fitCells (width : Nat) (s : List Char) : List Char :=
  let size := cellWidth s
  if size ≤ width then s ++ List.replicate (width - size) ' '
  else takeCells width (clusters s)

/-- Cuts clusters into pieces of at most `width` cells; `piece` is the piece so far, and `cells` its
cells. -/
def chopClusters (width : Nat) (piece : List Char) (cells : Nat) : List Cluster → List (List Char)
  | [] => if cells == 0 then [] else [piece]
  | k :: rest =>
    if width < cells + k.cells then piece :: chopClusters width k.chars k.cells rest
    else chopClusters width (piece ++ k.chars) (cells + k.cells) rest

/-- A text cut into pieces of at most a number of cells. What has no width at the end is left
out. -/
def chopCells (width : Nat) (s : List Char) : List (List Char) := chopClusters width [] 0 (clusters s)

end ParseBench.Text
