import ParseBench.Text.Runs

set_option relaxedAutoImplicit false
set_option autoImplicit false

/-!
# Code points of host names

Which code points may stand in a label of a host name, and the properties of them that the rules for
labels ask for: whether a letter is joined with its neighbours, its script, and the direction in
which it is written.

## Main definitions

* `ParseBench.Url.isValidInLabel` — the code points that may stand anywhere in a label.
* `ParseBench.Url.direction` — the direction of a code point that may stand in a label.
-/

namespace ParseBench.Url

open ParseBench.Text (Toggles ClassRuns)

/-- The code points that may stand anywhere in a label. -/
def validTable : String :=
  "2D 2E 30 3A 61 7B DF F7 F8 100 101 102 103 104 105 106 107 108 109 10A 10B 10C 10D 10E 10F 110
  111 112 113 114 115 116 117 118 119 11A 11B 11C 11D 11E 11F 120 121 122 123 124 125 126 127 128
  129 12A 12B 12C 12D 12E 12F 130 131 132 135 136 137 139 13A 13B 13C 13D 13E 13F 142 143 144 145
  146 147 148 149 14B 14C 14D 14E 14F 150 151 152 153 154 155 156 157 158 159 15A 15B 15C 15D 15E
  15F 160 161 162 163 164 165 166 167 168 169 16A 16B 16C 16D 16E 16F 170 171 172 173 174 175 176
  177 178 17A 17B 17C 17D 17E 17F 180 181 183 184 185 186 188 189 18C 18E 192 193 195 196 199 19C
  19E 19F 1A1 1A2 1A3 1A4 1A5 1A6 1A8 1A9 1AA 1AC 1AD 1AE 1B0 1B1 1B4 1B5 1B6 1B7 1B9 1BC 1BD 1C4
  1CE 1CF 1D0 1D1 1D2 1D3 1D4 1D5 1D6 1D7 1D8 1D9 1DA 1DB 1DC 1DE 1DF 1E0 1E1 1E2 1E3 1E4 1E5 1E6
  1E7 1E8 1E9 1EA 1EB 1EC 1ED 1EE 1EF 1F1 1F5 1F6 1F9 1FA 1FB 1FC 1FD 1FE 1FF 200 201 202 203 204
  205 206 207 208 209 20A 20B 20C 20D 20E 20F 210 211 212 213 214 215 216 217 218 219 21A 21B 21C
  21D 21E 21F 220 221 222 223 224 225 226 227 228 229 22A 22B 22C 22D 22E 22F 230 231 232 233 23A
  23C 23D 23F 241 242 243 247 248 249 24A 24B 24C 24D 24E 24F 2B0 2B9 2C2 2C6 2D2 2EC 2ED 2EE 2EF
  300 340 342 343 346 34F 350 370 371 372 373 374 377 378 37B 37E 390 391 3AC 3CF 3D7 3D8 3D9 3DA
  3DB 3DC 3DD 3DE 3DF 3E0 3E1 3E2 3E3 3E4 3E5 3E6 3E7 3E8 3E9 3EA 3EB 3EC 3ED 3EE 3EF 3F0 3F3 3F4
  3F8 3F9 3FB 3FD 430 460 461 462 463 464 465 466 467 468 469 46A 46B 46C 46D 46E 46F 470 471 472
  473 474 475 476 477 478 479 47A 47B 47C 47D 47E 47F 480 481 482 483 488 48B 48C 48D 48E 48F 490
  491 492 493 494 495 496 497 498 499 49A 49B 49C 49D 49E 49F 4A0 4A1 4A2 4A3 4A4 4A5 4A6 4A7 4A8
  4A9 4AA 4AB 4AC 4AD 4AE 4AF 4B0 4B1 4B2 4B3 4B4 4B5 4B6 4B7 4B8 4B9 4BA 4BB 4BC 4BD 4BE 4BF 4C0
  4C2 4C3 4C4 4C5 4C6 4C7 4C8 4C9 4CA 4CB 4CC 4CD 4CE 4D0 4D1 4D2 4D3 4D4 4D5 4D6 4D7 4D8 4D9 4DA
  4DB 4DC 4DD 4DE 4DF 4E0 4E1 4E2 4E3 4E4 4E5 4E6 4E7 4E8 4E9 4EA 4EB 4EC 4ED 4EE 4EF 4F0 4F1 4F2
  4F3 4F4 4F5 4F6 4F7 4F8 4F9 4FA 4FB 4FC 4FD 4FE 4FF 500 501 502 503 504 505 506 507 508 509 50A
  50B 50C 50D 50E 50F 510 511 512 513 514 515 516 517 518 519 51A 51B 51C 51D 51E 51F 520 521 522
  523 524 525 526 527 528 529 52A 52B 52C 52D 52E 52F 530 559 55A 560 587 588 589 591 5BE 5BF 5C0
  5C1 5C3 5C4 5C6 5C7 5C8 5D0 5EB 5EF 5F3 610 61B 620 640 641 660 66E 675 679 6D4 6D5 6DD 6DF 6E9
  6EA 6F0 6FA 700 710 74B 74D 7B2 7C0 7F6 7FD 7FE 800 82E 840 85C 860 86B 870 888 889 890 897 8E2
  8E3 958 960 964 966 970 971 984 985 98D 98F 991 993 9A9 9AA 9B1 9B2 9B3 9B6 9BA 9BC 9C5 9C7 9C9
  9CB 9CF 9D7 9D8 9E0 9E4 9E6 9F2 9FC 9FD 9FE 9FF A01 A04 A05 A0B A0F A11 A13 A29 A2A A31 A32 A33
  A35 A36 A38 A3A A3C A3D A3E A43 A47 A49 A4B A4E A51 A52 A5C A5D A66 A76 A81 A84 A85 A8E A8F A92
  A93 AA9 AAA AB1 AB2 AB4 AB5 ABA ABC AC6 AC7 ACA ACB ACE AD0 AD1 AE0 AE4 AE6 AF0 AF9 B00 B01 B04
  B05 B0D B0F B11 B13 B29 B2A B31 B32 B34 B35 B3A B3C B45 B47 B49 B4B B4E B55 B58 B5F B64 B66 B70
  B71 B72 B82 B84 B85 B8B B8E B91 B92 B96 B99 B9B B9C B9D B9E BA0 BA3 BA5 BA8 BAB BAE BBA BBE BC3
  BC6 BC9 BCA BCE BD0 BD1 BD7 BD8 BE6 BF0 C00 C0D C0E C11 C12 C29 C2A C3A C3C C45 C46 C49 C4A C4E
  C55 C57 C58 C5B C5C C5E C60 C64 C66 C70 C80 C84 C85 C8D C8E C91 C92 CA9 CAA CB4 CB5 CBA CBC CC5
  CC6 CC9 CCA CCE CD5 CD7 CDC CDF CE0 CE4 CE6 CF0 CF1 CF4 D00 D0D D0E D11 D12 D45 D46 D49 D4A D4F
  D54 D58 D5F D64 D66 D70 D7A D80 D81 D84 D85 D97 D9A DB2 DB3 DBC DBD DBE DC0 DC7 DCA DCB DCF DD5
  DD6 DD7 DD8 DE0 DE6 DF0 DF2 DF4 E01 E33 E34 E3B E40 E4F E50 E5A E81 E83 E84 E85 E86 E8B E8C EA4
  EA5 EA6 EA7 EB3 EB4 EBE EC0 EC5 EC6 EC7 EC8 ECF ED0 EDA EDE EE0 F00 F01 F0B F0C F18 F1A F20 F2A
  F35 F36 F37 F38 F39 F3A F3E F43 F44 F48 F49 F4D F4E F52 F53 F57 F58 F5C F5D F69 F6A F6D F71 F73
  F74 F75 F7A F81 F82 F85 F86 F93 F94 F98 F99 F9D F9E FA2 FA3 FA7 FA8 FAC FAD FB9 FBA FBD FC6 FC7
  1000 104A 1050 109E 10D0 10FB 10FD 1100 1200 1249 124A 124E 1250 1257 1258 1259 125A 125E 1260
  1289 128A 128E 1290 12B1 12B2 12B6 12B8 12BF 12C0 12C1 12C2 12C6 12C8 12D7 12D8 1311 1312 1316
  1318 135B 135D 1360 1380 1390 13A0 13F6 1401 166D 166F 1680 1681 169B 16A0 16EB 16F1 16F9 1700
  1716 171F 1735 1740 1754 1760 176D 176E 1771 1772 1774 1780 17B4 17B6 17D4 17D7 17D8 17DC 17DE
  17E0 17EA 1810 181A 1820 1879 1880 18AB 18B0 18F6 1900 191F 1920 192C 1930 193C 1946 196E 1970
  1975 1980 19AC 19B0 19CA 19D0 19DA 1A00 1A1C 1A20 1A5F 1A60 1A7D 1A7F 1A8A 1A90 1A9A 1AA7 1AA8
  1AB0 1ABE 1ABF 1ADE 1AE0 1AEC 1B00 1B4D 1B50 1B5A 1B6B 1B74 1B80 1BF4 1C00 1C38 1C40 1C4A 1C4D
  1C7E 1C8A 1C8B 1CD0 1CD3 1CD4 1CFB 1D00 1D2C 1D2F 1D30 1D3B 1D3C 1D4E 1D4F 1D6B 1D78 1D79 1D9B
  1DC0 1E00 1E01 1E02 1E03 1E04 1E05 1E06 1E07 1E08 1E09 1E0A 1E0B 1E0C 1E0D 1E0E 1E0F 1E10 1E11
  1E12 1E13 1E14 1E15 1E16 1E17 1E18 1E19 1E1A 1E1B 1E1C 1E1D 1E1E 1E1F 1E20 1E21 1E22 1E23 1E24
  1E25 1E26 1E27 1E28 1E29 1E2A 1E2B 1E2C 1E2D 1E2E 1E2F 1E30 1E31 1E32 1E33 1E34 1E35 1E36 1E37
  1E38 1E39 1E3A 1E3B 1E3C 1E3D 1E3E 1E3F 1E40 1E41 1E42 1E43 1E44 1E45 1E46 1E47 1E48 1E49 1E4A
  1E4B 1E4C 1E4D 1E4E 1E4F 1E50 1E51 1E52 1E53 1E54 1E55 1E56 1E57 1E58 1E59 1E5A 1E5B 1E5C 1E5D
  1E5E 1E5F 1E60 1E61 1E62 1E63 1E64 1E65 1E66 1E67 1E68 1E69 1E6A 1E6B 1E6C 1E6D 1E6E 1E6F 1E70
  1E71 1E72 1E73 1E74 1E75 1E76 1E77 1E78 1E79 1E7A 1E7B 1E7C 1E7D 1E7E 1E7F 1E80 1E81 1E82 1E83
  1E84 1E85 1E86 1E87 1E88 1E89 1E8A 1E8B 1E8C 1E8D 1E8E 1E8F 1E90 1E91 1E92 1E93 1E94 1E95 1E9A
  1E9C 1E9E 1E9F 1EA0 1EA1 1EA2 1EA3 1EA4 1EA5 1EA6 1EA7 1EA8 1EA9 1EAA 1EAB 1EAC 1EAD 1EAE 1EAF
  1EB0 1EB1 1EB2 1EB3 1EB4 1EB5 1EB6 1EB7 1EB8 1EB9 1EBA 1EBB 1EBC 1EBD 1EBE 1EBF 1EC0 1EC1 1EC2
  1EC3 1EC4 1EC5 1EC6 1EC7 1EC8 1EC9 1ECA 1ECB 1ECC 1ECD 1ECE 1ECF 1ED0 1ED1 1ED2 1ED3 1ED4 1ED5
  1ED6 1ED7 1ED8 1ED9 1EDA 1EDB 1EDC 1EDD 1EDE 1EDF 1EE0 1EE1 1EE2 1EE3 1EE4 1EE5 1EE6 1EE7 1EE8
  1EE9 1EEA 1EEB 1EEC 1EED 1EEE 1EEF 1EF0 1EF1 1EF2 1EF3 1EF4 1EF5 1EF6 1EF7 1EF8 1EF9 1EFA 1EFB
  1EFC 1EFD 1EFE 1EFF 1F08 1F10 1F16 1F20 1F28 1F30 1F38 1F40 1F46 1F50 1F58 1F60 1F68 1F70 1F71
  1F72 1F73 1F74 1F75 1F76 1F77 1F78 1F79 1F7A 1F7B 1F7C 1F7D 1FB0 1FB2 1FB6 1FB7 1FC6 1FC7 1FD0
  1FD3 1FD6 1FD8 1FE0 1FE3 1FE4 1FE8 1FF6 1FF7 214E 214F 2184 2185 2C30 2C60 2C61 2C62 2C65 2C67
  2C68 2C69 2C6A 2C6B 2C6C 2C6D 2C71 2C72 2C73 2C75 2C76 2C7C 2C81 2C82 2C83 2C84 2C85 2C86 2C87
  2C88 2C89 2C8A 2C8B 2C8C 2C8D 2C8E 2C8F 2C90 2C91 2C92 2C93 2C94 2C95 2C96 2C97 2C98 2C99 2C9A
  2C9B 2C9C 2C9D 2C9E 2C9F 2CA0 2CA1 2CA2 2CA3 2CA4 2CA5 2CA6 2CA7 2CA8 2CA9 2CAA 2CAB 2CAC 2CAD
  2CAE 2CAF 2CB0 2CB1 2CB2 2CB3 2CB4 2CB5 2CB6 2CB7 2CB8 2CB9 2CBA 2CBB 2CBC 2CBD 2CBE 2CBF 2CC0
  2CC1 2CC2 2CC3 2CC4 2CC5 2CC6 2CC7 2CC8 2CC9 2CCA 2CCB 2CCC 2CCD 2CCE 2CCF 2CD0 2CD1 2CD2 2CD3
  2CD4 2CD5 2CD6 2CD7 2CD8 2CD9 2CDA 2CDB 2CDC 2CDD 2CDE 2CDF 2CE0 2CE1 2CE2 2CE3 2CE5 2CEC 2CED
  2CEE 2CF2 2CF3 2CF4 2D00 2D26 2D27 2D28 2D2D 2D2E 2D30 2D68 2D7F 2D97 2DA0 2DA7 2DA8 2DAF 2DB0
  2DB7 2DB8 2DBF 2DC0 2DC7 2DC8 2DCF 2DD0 2DD7 2DD8 2DDF 2DE0 2E00 2E2F 2E30 3005 3008 302A 302E
  303C 303D 3041 3097 3099 309B 309D 309F 30A1 30FB 30FC 30FF 3105 3130 31A0 31C0 31F0 3200 3400
  4DC0 4E00 A48D A4D0 A4FE A500 A60D A610 A62C A641 A642 A643 A644 A645 A646 A647 A648 A649 A64A
  A64B A64C A64D A64E A64F A650 A651 A652 A653 A654 A655 A656 A657 A658 A659 A65A A65B A65C A65D
  A65E A65F A660 A661 A662 A663 A664 A665 A666 A667 A668 A669 A66A A66B A66C A66D A670 A674 A67E
  A67F A680 A681 A682 A683 A684 A685 A686 A687 A688 A689 A68A A68B A68C A68D A68E A68F A690 A691
  A692 A693 A694 A695 A696 A697 A698 A699 A69A A69B A69C A69E A6E6 A6F0 A6F2 A717 A720 A723 A724
  A725 A726 A727 A728 A729 A72A A72B A72C A72D A72E A72F A732 A733 A734 A735 A736 A737 A738 A739
  A73A A73B A73C A73D A73E A73F A740 A741 A742 A743 A744 A745 A746 A747 A748 A749 A74A A74B A74C
  A74D A74E A74F A750 A751 A752 A753 A754 A755 A756 A757 A758 A759 A75A A75B A75C A75D A75E A75F
  A760 A761 A762 A763 A764 A765 A766 A767 A768 A769 A76A A76B A76C A76D A76E A76F A770 A771 A779
  A77A A77B A77C A77D A77F A780 A781 A782 A783 A784 A785 A786 A787 A789 A78C A78D A78E A790 A791
  A792 A793 A796 A797 A798 A799 A79A A79B A79C A79D A79E A79F A7A0 A7A1 A7A2 A7A3 A7A4 A7A5 A7A6
  A7A7 A7A8 A7A9 A7AA A7AF A7B0 A7B5 A7B6 A7B7 A7B8 A7B9 A7BA A7BB A7BC A7BD A7BE A7BF A7C0 A7C1
  A7C2 A7C3 A7C4 A7C8 A7C9 A7CA A7CB A7CD A7CE A7CF A7D0 A7D1 A7D2 A7D3 A7D4 A7D5 A7D6 A7D7 A7D8
  A7D9 A7DA A7DB A7DC A7F6 A7F8 A7FA A828 A82C A82D A840 A874 A880 A8C6 A8D0 A8DA A8E0 A8F8 A8FB
  A8FC A8FD A92E A930 A954 A980 A9C1 A9CF A9DA A9E0 A9FF AA00 AA37 AA40 AA4E AA50 AA5A AA60 AA77
  AA7A AAC3 AADB AADE AAE0 AAF0 AAF2 AAF7 AB01 AB07 AB09 AB0F AB11 AB17 AB20 AB27 AB28 AB2F AB30
  AB5B AB60 AB69 ABC0 ABEB ABEC ABEE ABF0 ABFA AC00 D7A4 FA0E FA10 FA11 FA12 FA13 FA15 FA1F FA20
  FA21 FA22 FA23 FA25 FA27 FA2A FB1E FB1F FE20 FE30 FE73 FE74 10000 1000C 1000D 10027 10028 1003B
  1003C 1003E 1003F 1004E 10050 1005E 10080 100FB 101FD 101FE 10280 1029D 102A0 102D1 102E0 102E1
  10300 10320 1032D 10341 10342 1034A 10350 1037B 10380 1039E 103A0 103C4 103C8 103D0 10428 1049E
  104A0 104AA 104D8 104FC 10500 10528 10530 10564 10597 105A2 105A3 105B2 105B3 105BA 105BB 105BD
  105C0 105F4 10600 10737 10740 10756 10760 10768 10780 10781 10800 10806 10808 10809 1080A 10836
  10837 10839 1083C 1083D 1083F 10856 10860 10877 10880 1089F 108E0 108F3 108F4 108F6 10900 10916
  10920 1093A 10940 1095A 10980 109B8 109BE 109C0 10A00 10A04 10A05 10A07 10A0C 10A14 10A15 10A18
  10A19 10A36 10A38 10A3B 10A3F 10A40 10A60 10A7D 10A80 10A9D 10AC0 10AC8 10AC9 10AE7 10B00 10B36
  10B40 10B56 10B60 10B73 10B80 10B92 10C00 10C49 10CC0 10CF3 10D00 10D28 10D30 10D3A 10D40 10D50
  10D69 10D6E 10D6F 10D86 10E80 10EAA 10EAB 10EAD 10EB0 10EB2 10EC2 10EC8 10EFA 10F1D 10F27 10F28
  10F30 10F51 10F70 10F86 10FB0 10FC5 10FE0 10FF7 11000 11047 11066 11076 1107F 110BB 110C2 110C3
  110D0 110E9 110F0 110FA 11100 11135 11136 11140 11144 11148 11150 11174 11176 11177 11180 111C5
  111C9 111CD 111CE 111DB 111DC 111DD 11200 11212 11213 11238 1123E 11242 11280 11287 11288 11289
  1128A 1128E 1128F 1129E 1129F 112A9 112B0 112EB 112F0 112FA 11300 11304 11305 1130D 1130F 11311
  11313 11329 1132A 11331 11332 11334 11335 1133A 1133B 11345 11347 11349 1134B 1134E 11350 11351
  11357 11358 1135D 11364 11366 1136D 11370 11375 11380 1138A 1138B 1138C 1138E 1138F 11390 113B6
  113B7 113C1 113C2 113C3 113C5 113C6 113C7 113CB 113CC 113D4 113E1 113E3 11400 1144B 11450 1145A
  1145E 11462 11480 114C6 114C7 114C8 114D0 114DA 11580 115B6 115B8 115C1 115D8 115DE 11600 11641
  11644 11645 11650 1165A 11680 116B9 116C0 116CA 116D0 116E4 11700 1171B 1171D 1172C 11730 1173A
  11740 11747 11800 1183B 118C0 118EA 118FF 11907 11909 1190A 1190C 11914 11915 11917 11918 11936
  11937 11939 1193B 11944 11950 1195A 119A0 119A8 119AA 119D8 119DA 119E2 119E3 119E5 11A00 11A3F
  11A47 11A48 11A50 11A9A 11A9D 11A9E 11AB0 11AF9 11B60 11B68 11BC0 11BE1 11BF0 11BFA 11C00 11C09
  11C0A 11C37 11C38 11C41 11C50 11C5A 11C72 11C90 11C92 11CA8 11CA9 11CB7 11D00 11D07 11D08 11D0A
  11D0B 11D37 11D3A 11D3B 11D3C 11D3E 11D3F 11D48 11D50 11D5A 11D60 11D66 11D67 11D69 11D6A 11D8F
  11D90 11D92 11D93 11D99 11DA0 11DAA 11DB0 11DDC 11DE0 11DEA 11EE0 11EF7 11F00 11F11 11F12 11F3B
  11F3E 11F43 11F50 11F5B 11FB0 11FB1 12000 1239A 12480 12544 12F90 12FF1 13000 13430 13440 13456
  13460 143FB 14400 14647 16100 1613A 16800 16A39 16A40 16A5F 16A60 16A6A 16A70 16ABF 16AC0 16ACA
  16AD0 16AEE 16AF0 16AF5 16B00 16B37 16B40 16B44 16B50 16B5A 16B63 16B78 16B7D 16B90 16D40 16D6D
  16D70 16D7A 16E60 16E80 16EBB 16ED4 16F00 16F4B 16F4F 16F88 16F8F 16FA0 16FE0 16FE2 16FE3 16FE5
  16FF0 16FF4 17000 18CD6 18CFF 18D1F 18D80 18DF3 1AFF0 1AFF4 1AFF5 1AFFC 1AFFD 1AFFF 1B000 1B123
  1B132 1B133 1B150 1B153 1B155 1B156 1B164 1B168 1B170 1B2FC 1BC00 1BC6B 1BC70 1BC7D 1BC80 1BC89
  1BC90 1BC9A 1BC9D 1BC9F 1CF00 1CF2E 1CF30 1CF47 1DA00 1DA37 1DA3B 1DA6D 1DA75 1DA76 1DA84 1DA85
  1DA9B 1DAA0 1DAA1 1DAB0 1DF00 1DF1F 1DF25 1DF2B 1E000 1E007 1E008 1E019 1E01B 1E022 1E023 1E025
  1E026 1E02B 1E08F 1E090 1E100 1E12D 1E130 1E13E 1E140 1E14A 1E14E 1E14F 1E290 1E2AF 1E2C0 1E2FA
  1E4D0 1E4FA 1E5D0 1E5FB 1E6C0 1E6DF 1E6E0 1E6F6 1E6FE 1E700 1E7E0 1E7E7 1E7E8 1E7EC 1E7ED 1E7EF
  1E7F0 1E7FF 1E800 1E8C5 1E8D0 1E8D7 1E922 1E94C 1E950 1E95A 20000 2A6E0 2A700 2B81E 2B820 2CEAE
  2CEB0 2EBE1 2EBF0 2EE5E 30000 3134B 31350 3347A"

/-- The marks, which no label begins with. -/
def markTable : String :=
  "300 370 483 48A 591 5BE 5BF 5C0 5C1 5C3 5C4 5C6 5C7 5C8 610 61B 64B 660 670 671 6D6 6DD 6DF 6E5
  6E7 6E9 6EA 6EE 711 712 730 74B 7A6 7B1 7EB 7F4 7FD 7FE 816 81A 81B 824 825 828 829 82E 859 85C
  898 8A0 8CA 8E2 8E3 904 93A 93D 93E 950 951 958 962 964 981 984 9BC 9BD 9BE 9C5 9C7 9C9 9CB 9CE
  9D7 9D8 9E2 9E4 9FE 9FF A01 A04 A3C A3D A3E A43 A47 A49 A4B A4E A51 A52 A70 A72 A75 A76 A81 A84
  ABC ABD ABE AC6 AC7 ACA ACB ACE AE2 AE4 AFA B00 B01 B04 B3C B3D B3E B45 B47 B49 B4B B4E B55 B58
  B62 B64 B82 B83 BBE BC3 BC6 BC9 BCA BCE BD7 BD8 C00 C05 C3C C3D C3E C45 C46 C49 C4A C4E C55 C57
  C62 C64 C81 C84 CBC CBD CBE CC5 CC6 CC9 CCA CCE CD5 CD7 CE2 CE4 D00 D04 D3B D3D D3E D45 D46 D49
  D4A D4E D57 D58 D62 D64 D81 D84 DCA DCB DCF DD5 DD6 DD7 DD8 DE0 DF2 DF4 E31 E32 E34 E3B E47 E4F
  EB1 EB2 EB4 EBD EC8 ECE F18 F1A F35 F36 F37 F38 F39 F3A F3E F40 F71 F85 F86 F88 F8D F98 F99 FBD
  FC6 FC7 102B 103F 1056 105A 105E 1061 1062 1065 1067 106E 1071 1075 1082 108E 108F 1090 109A
  109E 135D 1360 1712 1716 1732 1735 1752 1754 1772 1774 17B4 17D4 17DD 17DE 180B 180E 180F 1810
  1885 1887 18A9 18AA 1920 192C 1930 193C 1A17 1A1C 1A55 1A5F 1A60 1A7D 1A7F 1A80 1AB0 1ACF 1B00
  1B05 1B34 1B45 1B6B 1B74 1B80 1B83 1BA1 1BAE 1BE6 1BF4 1C24 1C38 1CD0 1CD3 1CD4 1CE9 1CED 1CEE
  1CF4 1CF5 1CF7 1CFA 1DC0 1E00 20D0 20F1 2CEF 2CF2 2D7F 2D80 2DE0 2E00 302A 3030 3099 309B A66F
  A673 A674 A67E A69E A6A0 A6F0 A6F2 A802 A803 A806 A807 A80B A80C A823 A828 A82C A82D A880 A882
  A8B4 A8C6 A8E0 A8F2 A8FF A900 A926 A92E A947 A954 A980 A984 A9B3 A9C1 A9E5 A9E6 AA29 AA37 AA43
  AA44 AA4C AA4E AA7B AA7E AAB0 AAB1 AAB2 AAB5 AAB7 AAB9 AABE AAC0 AAC1 AAC2 AAEB AAF0 AAF5 AAF7
  ABE3 ABEB ABEC ABEE FB1E FB1F FE00 FE10 FE20 FE30 101FD 101FE 102E0 102E1 10376 1037B 10A01
  10A04 10A05 10A07 10A0C 10A10 10A38 10A3B 10A3F 10A40 10AE5 10AE7 10D24 10D28 10EAB 10EAD 10F46
  10F51 10F82 10F86 11000 11003 11038 11047 11070 11071 11073 11075 1107F 11083 110B0 110BB 110C2
  110C3 11100 11103 11127 11135 11145 11147 11173 11174 11180 11183 111B3 111C1 111C9 111CD 111CE
  111D0 1122C 11238 1123E 1123F 112DF 112EB 11300 11304 1133B 1133D 1133E 11345 11347 11349 1134B
  1134E 11357 11358 11362 11364 11366 1136D 11370 11375 11435 11447 1145E 1145F 114B0 114C4 115AF
  115B6 115B8 115C1 115DC 115DE 11630 11641 116AB 116B8 1171D 1172C 1182C 1183B 11930 11936 11937
  11939 1193B 1193F 11940 11941 11942 11944 119D1 119D8 119DA 119E1 119E4 119E5 11A01 11A0B 11A33
  11A3A 11A3B 11A3F 11A47 11A48 11A51 11A5C 11A8A 11A9A 11C2F 11C37 11C38 11C40 11C92 11CA8 11CA9
  11CB7 11D31 11D37 11D3A 11D3B 11D3C 11D3E 11D3F 11D46 11D47 11D48 11D8A 11D8F 11D90 11D92 11D93
  11D98 11EF3 11EF7 16AF0 16AF5 16B30 16B37 16F4F 16F50 16F51 16F88 16F8F 16F93 16FE4 16FE5 16FF0
  16FF2 1BC9D 1BC9F 1CF00 1CF2E 1CF30 1CF47 1D165 1D16A 1D16D 1D173 1D17B 1D183 1D185 1D18C 1D1AA
  1D1AE 1D242 1D245 1DA00 1DA37 1DA3B 1DA6D 1DA75 1DA76 1DA84 1DA85 1DA9B 1DAA0 1DAA1 1DAB0 1E000
  1E007 1E008 1E019 1E01B 1E022 1E023 1E025 1E026 1E02B 1E130 1E137 1E2AE 1E2AF 1E2EC 1E2F0 1E8D0
  1E8D7 1E944 1E94B E0100 E01F0"

/-- The letters that joining passes over. -/
def transparentTable : String :=
  "AD AE 300 370 483 48A 591 5BE 5BF 5C0 5C1 5C3 5C4 5C6 5C7 5C8 610 61B 61C 61D 64B 660 670 671
  6D6 6DD 6DF 6E5 6E7 6E9 6EA 6EE 70F 710 711 712 730 74B 7A6 7B1 7EB 7F4 7FD 7FE 816 81A 81B 824
  825 828 829 82E 859 85C 897 8A0 8CA 8E2 8E3 903 93A 93B 93C 93D 941 949 94D 94E 951 958 962 964
  981 982 9BC 9BD 9C1 9C5 9CD 9CE 9E2 9E4 9FE 9FF A01 A03 A3C A3D A41 A43 A47 A49 A4B A4E A51 A52
  A70 A72 A75 A76 A81 A83 ABC ABD AC1 AC6 AC7 AC9 ACD ACE AE2 AE4 AFA B00 B01 B02 B3C B3D B3F B40
  B41 B45 B4D B4E B55 B57 B62 B64 B82 B83 BC0 BC1 BCD BCE C00 C01 C04 C05 C3C C3D C3E C41 C46 C49
  C4A C4E C55 C57 C62 C64 C81 C82 CBC CBD CBF CC0 CC6 CC7 CCC CCE CE2 CE4 D00 D02 D3B D3D D41 D45
  D4D D4E D62 D64 D81 D82 DCA DCB DD2 DD5 DD6 DD7 E31 E32 E34 E3B E47 E4F EB1 EB2 EB4 EBD EC8 ECF
  F18 F1A F35 F36 F37 F38 F39 F3A F71 F7F F80 F85 F86 F88 F8D F98 F99 FBD FC6 FC7 102D 1031 1032
  1038 1039 103B 103D 103F 1058 105A 105E 1061 1071 1075 1082 1083 1085 1087 108D 108E 109D 109E
  135D 1360 1712 1715 1732 1734 1752 1754 1772 1774 17B4 17B6 17B7 17BE 17C6 17C7 17C9 17D4 17DD
  17DE 180B 180E 180F 1810 1885 1887 18A9 18AA 1920 1923 1927 1929 1932 1933 1939 193C 1A17 1A19
  1A1B 1A1C 1A56 1A57 1A58 1A5F 1A60 1A61 1A62 1A63 1A65 1A6D 1A73 1A7D 1A7F 1A80 1AB0 1ADE 1AE0
  1AEC 1B00 1B04 1B34 1B35 1B36 1B3B 1B3C 1B3D 1B42 1B43 1B6B 1B74 1B80 1B82 1BA2 1BA6 1BA8 1BAA
  1BAB 1BAE 1BE6 1BE7 1BE8 1BEA 1BED 1BEE 1BEF 1BF2 1C2C 1C34 1C36 1C38 1CD0 1CD3 1CD4 1CE1 1CE2
  1CE9 1CED 1CEE 1CF4 1CF5 1CF8 1CFA 1DC0 1E00 200B 200C 200E 2010 202A 202F 2060 2065 206A 2070
  20D0 20F1 2CEF 2CF2 2D7F 2D80 2DE0 2E00 302A 302E 3099 309B A66F A673 A674 A67E A69E A6A0 A6F0
  A6F2 A802 A803 A806 A807 A80B A80C A825 A827 A82C A82D A8C4 A8C6 A8E0 A8F2 A8FF A900 A926 A92E
  A947 A952 A980 A983 A9B3 A9B4 A9B6 A9BA A9BC A9BE A9E5 A9E6 AA29 AA2F AA31 AA33 AA35 AA37 AA43
  AA44 AA4C AA4D AA7C AA7D AAB0 AAB1 AAB2 AAB5 AAB7 AAB9 AABE AAC0 AAC1 AAC2 AAEC AAEE AAF6 AAF7
  ABE5 ABE6 ABE8 ABE9 ABED ABEE FB1E FB1F FE00 FE10 FE20 FE30 FEFF FF00 FFF9 FFFC 101FD 101FE
  102E0 102E1 10376 1037B 10A01 10A04 10A05 10A07 10A0C 10A10 10A38 10A3B 10A3F 10A40 10AE5 10AE7
  10D24 10D28 10D69 10D6E 10EAB 10EAD 10EFA 10F00 10F46 10F51 10F82 10F86 11001 11002 11038 11047
  11070 11071 11073 11075 1107F 11082 110B3 110B7 110B9 110BB 110C2 110C3 11100 11103 11127 1112C
  1112D 11135 11173 11174 11180 11182 111B6 111BF 111C9 111CD 111CF 111D0 1122F 11232 11234 11235
  11236 11238 1123E 1123F 11241 11242 112DF 112E0 112E3 112EB 11300 11302 1133B 1133D 11340 11341
  11366 1136D 11370 11375 113BB 113C1 113CE 113CF 113D0 113D1 113D2 113D3 113E1 113E3 11438 11440
  11442 11445 11446 11447 1145E 1145F 114B3 114B9 114BA 114BB 114BF 114C1 114C2 114C4 115B2 115B6
  115BC 115BE 115BF 115C1 115DC 115DE 11633 1163B 1163D 1163E 1163F 11641 116AB 116AC 116AD 116AE
  116B0 116B6 116B7 116B8 1171D 1171E 1171F 11720 11722 11726 11727 1172C 1182F 11838 11839 1183B
  1193B 1193D 1193E 1193F 11943 11944 119D4 119D8 119DA 119DC 119E0 119E1 11A01 11A0B 11A33 11A39
  11A3B 11A3F 11A47 11A48 11A51 11A57 11A59 11A5C 11A8A 11A97 11A98 11A9A 11B60 11B61 11B62 11B65
  11B66 11B67 11C30 11C37 11C38 11C3E 11C3F 11C40 11C92 11CA8 11CAA 11CB1 11CB2 11CB4 11CB5 11CB7
  11D31 11D37 11D3A 11D3B 11D3C 11D3E 11D3F 11D46 11D47 11D48 11D90 11D92 11D95 11D96 11D97 11D98
  11EF3 11EF5 11F00 11F02 11F36 11F3B 11F40 11F41 11F42 11F43 11F5A 11F5B 13430 13441 13447 13456
  1611E 1612A 1612D 16130 16AF0 16AF5 16B30 16B37 16F4F 16F50 16F8F 16F93 16FE4 16FE5 1BC9D 1BC9F
  1BCA0 1BCA4 1CF00 1CF2E 1CF30 1CF47 1D167 1D16A 1D173 1D183 1D185 1D18C 1D1AA 1D1AE 1D242 1D245
  1DA00 1DA37 1DA3B 1DA6D 1DA75 1DA76 1DA84 1DA85 1DA9B 1DAA0 1DAA1 1DAB0 1E000 1E007 1E008 1E019
  1E01B 1E022 1E023 1E025 1E026 1E02B 1E08F 1E090 1E130 1E137 1E2AE 1E2AF 1E2EC 1E2F0 1E4EC 1E4F0
  1E5EE 1E5F0 1E6E3 1E6E4 1E6E6 1E6E7 1E6EE 1E6F0 1E6F5 1E6F6 1E8D0 1E8D7 1E944 1E94C E0001 E0002
  E0020 E0080 E0100 E01F0"

/-- The letters that are joined with the next one. -/
def joinsNextTable : String :=
  "620 621 626 627 628 629 62A 62F 633 640 641 648 649 64B 66E 670 678 688 69A 6C0 6C1 6C3 6CC 6CD
  6CE 6CF 6D0 6D2 6FA 6FD 6FF 700 712 715 71A 71E 71F 728 729 72A 72B 72C 72D 72F 74E 759 75C 76B
  76D 771 772 773 775 778 77A 780 7CA 7EB 841 846 848 849 84A 854 855 856 860 861 862 866 868 869
  886 887 889 88E 88F 890 8A0 8AA 8AF 8B1 8B3 8B9 8BA 8C9 1807 1808 1820 1879 1887 18A9 18AA 18AB
  A840 A873 10AC0 10AC5 10ACD 10ACE 10AD3 10ADD 10ADE 10AE1 10AEB 10AEF 10B80 10B81 10B82 10B83
  10B86 10B89 10B8A 10B8C 10B8D 10B8E 10B90 10B91 10BAD 10BAF 10D00 10D22 10D23 10D24 10EC3 10EC5
  10EC6 10EC8 10F30 10F33 10F34 10F45 10F51 10F54 10F70 10F74 10F76 10F82 10FB0 10FB1 10FB2 10FB4
  10FB8 10FB9 10FBB 10FBD 10FBE 10FC0 10FC1 10FC2 10FC4 10FC5 10FCA 10FCC 1E900 1E944"

/-- The letters that are joined with the one before. -/
def joinsLastTable : String :=
  "620 621 622 640 641 64B 66E 670 671 674 675 6D4 6D5 6D6 6EE 6F0 6FA 6FD 6FF 700 710 711 712 730
  74D 780 7CA 7EB 840 859 860 861 862 866 867 86B 870 883 886 887 889 890 8A0 8AD 8AE 8C9 1807
  1808 1820 1879 1887 18A9 18AA 18AB A840 A872 10AC0 10AC6 10AC7 10AC8 10AC9 10ACB 10ACE 10AD7
  10AD8 10AE2 10AE4 10AE5 10AEB 10AF0 10B80 10B92 10BA9 10BAF 10D01 10D24 10EC2 10EC5 10EC6 10EC8
  10F30 10F45 10F51 10F55 10F70 10F82 10FB0 10FB1 10FB2 10FB7 10FB8 10FC0 10FC1 10FC5 10FC9 10FCB
  1E900 1E944"

/-- The Greek letters. -/
def greekTable : String :=
  "370 374 375 378 37A 37E 37F 380 384 385 386 387 388 38B 38C 38D 38E 3A2 3A3 3E2 3F0 400 1D26
  1D2B 1D5D 1D62 1D66 1D6B 1DBF 1DC0 1F00 1F16 1F18 1F1E 1F20 1F46 1F48 1F4E 1F50 1F58 1F59 1F5A
  1F5B 1F5C 1F5D 1F5E 1F5F 1F7E 1F80 1FB5 1FB6 1FC5 1FC6 1FD4 1FD6 1FDC 1FDD 1FF0 1FF2 1FF5 1FF6
  1FFF 2126 2127 AB65 AB66 10140 1018F 101A0 101A1 1D200 1D246"

/-- The Hebrew letters. -/
def hebrewTable : String :=
  "591 5C8 5D0 5EB 5EF 5F5 FB1D FB37 FB38 FB3D FB3E FB3F FB40 FB42 FB43 FB45 FB46 FB50"

/-- The Japanese syllables and the ideographs. -/
def kanaOrHanTable : String :=
  "2E80 2E9A 2E9B 2EF4 2F00 2FD6 3005 3006 3007 3008 3021 302A 3038 303C 3041 3097 309D 30A0 30A1
  30FB 30FD 3100 31F0 3200 32D0 32FF 3300 3358 3400 4DC0 4E00 A000 F900 FA6E FA70 FADA FF66 FF70
  FF71 FF9E 16FE2 16FE4 16FF0 16FF7 1AFF0 1AFF4 1AFF5 1AFFC 1AFFD 1AFFF 1B000 1B123 1B132 1B133
  1B150 1B153 1B155 1B156 1B164 1B168 1F200 1F201 20000 2A6E0 2A700 2B81E 2B820 2CEAE 2CEB0 2EBE1
  2EBF0 2EE5E 2F800 2FA1E 30000 3134B 31350 3347A"

/-- The directions of the code points that may stand in a label; a hyphen where none is known. -/
def directionTable : String :=
  "2D ES 30 EN 61 L B7 ON DF L 2B9 ON 2BB L 2C6 ON 2D0 L 2EC ON 2EE L 300 NSM 371 L 375 ON 377 L
  483 NSM 48B L 591 NSM 5D0 R 610 NSM 620 AL 64B NSM 660 AN 66E AL 670 NSM 671 AL 6D6 NSM 6E5 AL
  6E7 NSM 6EE AL 6F0 EN 6FA AL 711 NSM 712 AL 730 NSM 74D AL 7A6 NSM 7B1 AL 7C0 R 7EB NSM 7F4 R
  7FD NSM 800 R 816 NSM 81A R 81B NSM 824 R 825 NSM 828 R 829 NSM 840 R 859 NSM 860 AL 88F - 898
  NSM 8A0 AL 8CA NSM 903 L 93A NSM 93B L 93C NSM 93D L 941 NSM 949 L 94D NSM 94E L 951 NSM 960 L
  962 NSM 966 L 981 NSM 982 L 9BC NSM 9BD L 9C1 NSM 9C7 L 9CD NSM 9CE L 9E2 NSM 9E6 L 9FE NSM A03
  L A3C NSM A3E L A41 NSM A5C L A70 NSM A72 L A75 NSM A83 L ABC NSM ABD L AC1 NSM AC9 L ACD NSM
  AD0 L AE2 NSM AE6 L AFA NSM B02 L B3C NSM B3D L B3F NSM B40 L B41 NSM B47 L B4D NSM B57 L B62
  NSM B66 L B82 NSM B83 L BC0 NSM BC1 L BCD NSM BD0 L C00 NSM C01 L C04 NSM C05 L C3C NSM C3D L
  C3E NSM C41 L C46 NSM C58 L C5C - C5D L C62 NSM C66 L C81 NSM C82 L CBC NSM CBD L CCC NSM CD5 L
  CDC - CDD L CE2 NSM CE6 L CF3 - D00 NSM D02 L D3B NSM D3D L D41 NSM D46 L D4D NSM D4E L D62 NSM
  D66 L D81 NSM D82 L DCA NSM DCF L DD2 NSM DD8 L E31 NSM E32 L E34 NSM E40 L E47 NSM E50 L EB1
  NSM EB2 L EB4 NSM EBD L EC8 NSM ECE - ED0 L F18 NSM F20 L F35 NSM F3E L F71 NSM F7F L F80 NSM
  F88 L F8D NSM 1000 L 102D NSM 1031 L 1032 NSM 1038 L 1039 NSM 103B L 103D NSM 103F L 1058 NSM
  105A L 105E NSM 1061 L 1071 NSM 1075 L 1082 NSM 1083 L 1085 NSM 1087 L 108D NSM 108E L 109D NSM
  10D0 L 135D NSM 1380 L 1712 NSM 1715 L 1732 NSM 1734 L 1752 NSM 1760 L 1772 NSM 1780 L 17B7 NSM
  17BE L 17C6 NSM 17C7 L 17C9 NSM 17D7 L 17DD NSM 17E0 L 1885 NSM 1887 L 18A9 NSM 18AA L 1920 NSM
  1923 L 1927 NSM 1929 L 1932 NSM 1933 L 1939 NSM 1946 L 1A17 NSM 1A19 L 1A1B NSM 1A20 L 1A56 NSM
  1A57 L 1A58 NSM 1A61 L 1A62 NSM 1A63 L 1A65 NSM 1A6D L 1A73 NSM 1A80 L 1AB0 NSM 1ACF - 1B00 NSM
  1B04 L 1B34 NSM 1B35 L 1B36 NSM 1B3B L 1B3C NSM 1B3D L 1B42 NSM 1B43 L 1B6B NSM 1B82 L 1BA2 NSM
  1BA6 L 1BA8 NSM 1BAA L 1BAB NSM 1BAE L 1BE6 NSM 1BE7 L 1BE8 NSM 1BEA L 1BED NSM 1BEE L 1BEF NSM
  1BF2 L 1C2C NSM 1C34 L 1C36 NSM 1C40 L 1C8A - 1CD0 NSM 1CE1 L 1CE2 NSM 1CE9 L 1CED NSM 1CEE L
  1CF4 NSM 1CF5 L 1CF8 NSM 1CFA L 1DC0 NSM 1E01 L 200C BN 214E L 2CEF NSM 2CF3 L 2D7F NSM 2D80 L
  2DE0 NSM 2E2F ON 3005 L 302A NSM 303C L 3099 NSM 309D L 30FB ON 30FC L A66F NSM A67F ON A681 L
  A69E NSM A6A0 L A6F0 NSM A717 ON A723 L A788 ON A78C L A7CD - A7D1 L A7DB - A7F6 L A802 NSM A803
  L A806 NSM A807 L A80B NSM A80C L A825 NSM A827 L A82C NSM A840 L A8C4 NSM A8D0 L A8E0 NSM A8F2
  L A8FF NSM A900 L A926 NSM A930 L A947 NSM A952 L A980 NSM A983 L A9B3 NSM A9B4 L A9B6 NSM A9BA
  L A9BC NSM A9BE L A9E5 NSM A9E6 L AA29 NSM AA2F L AA31 NSM AA33 L AA35 NSM AA40 L AA43 NSM AA44
  L AA4C NSM AA4D L AA7C NSM AA7D L AAB0 NSM AAB1 L AAB2 NSM AAB5 L AAB7 NSM AAB9 L AABE NSM AAC0
  L AAC1 NSM AAC2 L AAEC NSM AAEE L AAF6 NSM AB01 L ABE5 NSM ABE6 L ABE8 NSM ABE9 L ABED NSM ABF0
  L FB1E NSM FE73 AL 10000 L 101FD NSM 10280 L 102E0 NSM 10300 L 10376 NSM 10380 L 105C0 - 10600 L
  10800 R 10940 - 10980 R 10A01 NSM 10A10 R 10A38 NSM 10A60 R 10AE5 NSM 10B00 R 10D00 AL 10D24 NSM
  10D30 AN 10D40 - 10E80 R 10EAB NSM 10EB0 R 10EC2 - 10F00 R 10F30 AL 10F46 NSM 10F70 R 10F82 NSM
  10FB0 R 11000 L 11001 NSM 11002 L 11038 NSM 11066 L 11070 NSM 11071 L 11073 NSM 11075 L 1107F
  NSM 11082 L 110B3 NSM 110B7 L 110B9 NSM 110D0 L 11100 NSM 11103 L 11127 NSM 1112C L 1112D NSM
  11136 L 11173 NSM 11176 L 11180 NSM 11182 L 111B6 NSM 111BF L 111C9 NSM 111CE L 111CF NSM 111D0
  L 1122F NSM 11232 L 11234 NSM 11235 L 11236 NSM 1123F - 11280 L 112DF NSM 112E0 L 112E3 NSM
  112F0 L 11300 NSM 11302 L 1133B NSM 1133D L 11340 NSM 11341 L 11366 NSM 11380 - 11400 L 11438
  NSM 11440 L 11442 NSM 11445 L 11446 NSM 11447 L 1145E NSM 1145F L 114B3 NSM 114B9 L 114BA NSM
  114BB L 114BF NSM 114C1 L 114C2 NSM 114C4 L 115B2 NSM 115B8 L 115BC NSM 115BE L 115BF NSM 115D8
  L 115DC NSM 11600 L 11633 NSM 1163B L 1163D NSM 1163E L 1163F NSM 11644 L 116AB NSM 116AC L
  116AD NSM 116AE L 116B0 NSM 116B6 L 116B7 NSM 116B8 L 116D0 - 11700 L 1171D NSM 11720 L 11722
  NSM 11726 L 11727 NSM 11730 L 1182F NSM 11838 L 11839 NSM 118C0 L 1193B NSM 1193D L 1193E NSM
  1193F L 11943 NSM 11950 L 119D4 NSM 119DC L 119E0 NSM 119E1 L 11A01 NSM 11A07 L 11A09 NSM 11A0B
  L 11A33 NSM 11A39 L 11A3B NSM 11A50 L 11A51 NSM 11A57 L 11A59 NSM 11A5C L 11A8A NSM 11A97 L
  11A98 NSM 11A9D L 11B60 - 11C00 L 11C30 NSM 11C3E L 11C92 NSM 11CA9 L 11CAA NSM 11CB1 L 11CB2
  NSM 11CB4 L 11CB5 NSM 11D00 L 11D31 NSM 11D46 L 11D47 NSM 11D50 L 11D90 NSM 11D93 L 11D95 NSM
  11D96 L 11D97 NSM 11D98 L 11DB0 - 11EE0 L 11EF3 NSM 11EF5 L 11F00 - 11FB0 L 1342F - 14400 L
  16100 - 16800 L 16AF0 NSM 16B00 L 16B30 NSM 16B40 L 16D40 - 16E60 L 16EBB - 16F00 L 16F4F NSM
  16F50 L 16F8F NSM 16F93 L 16FE4 NSM 16FF0 L 16FF2 - 17000 L 187F8 - 18800 L 18CFF - 18D00 L
  18D09 - 1AFF0 L 1B132 - 1B150 L 1B155 - 1B164 L 1BC9D NSM 1DF00 L 1DF25 - 1E000 NSM 1E08F -
  1E100 L 1E130 NSM 1E137 L 1E2AE NSM 1E2C0 L 1E2EC NSM 1E2F0 L 1E4D0 - 1E7E0 L 1E800 R 1E8D0 NSM
  1E922 R 1E944 NSM 1E94B R 20000 L 2B739 - 2B740 L 2CEA2 - 2CEB0 L 2EBF0 - 30000 L 31350 -"

/-! ## Look-up -/

/-- The code points that may stand anywhere in a label. -/
def validPoints : Toggles := .ofTable validTable

/-- Whether a code point may stand anywhere in a label. -/
def isValidInLabel (n : Nat) : Bool := validPoints.holds n

/-- The marks. -/
def markPoints : Toggles := .ofTable markTable

/-- Whether a code point is a mark. -/
def isMark (n : Nat) : Bool := markPoints.holds n

/-- The letters that joining passes over. -/
def transparentPoints : Toggles := .ofTable transparentTable

/-- The letters that are joined with the next one. -/
def joinsNextPoints : Toggles := .ofTable joinsNextTable

/-- The letters that are joined with the one before. -/
def joinsLastPoints : Toggles := .ofTable joinsLastTable

/-- The Greek letters. -/
def greekPoints : Toggles := .ofTable greekTable

/-- The Hebrew letters. -/
def hebrewPoints : Toggles := .ofTable hebrewTable

/-- The Japanese syllables and the ideographs. -/
def kanaOrHanPoints : Toggles := .ofTable kanaOrHanTable

/-- The directions. -/
def directions : ClassRuns := .ofTable directionTable

/-- The direction of a code point that may stand in a label. -/
def direction (n : Nat) : String := directions.valueAt n

end ParseBench.Url
