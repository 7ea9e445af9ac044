import SchemaDocs.Text.Lowercase

/-!
# Case folding

What makes texts comparable without regard to case: the full case folding of the
Unicode standard (version 14). It is the lower case of a character except for
those in the table.
-/

namespace SchemaDocs.Text

/-- Characters whose folding is not their lower case. -/
def foldings : List (Nat × List Nat) := [
  (0xB5, [0x3BC]), (0xDF, [0x73, 0x73]), (0x149, [0x2BC, 0x6E]), (0x17F, [0x73]),
  (0x1F0, [0x6A, 0x30C]), (0x345, [0x3B9]), (0x390, [0x3B9, 0x308, 0x301]),
  (0x3B0, [0x3C5, 0x308, 0x301]), (0x3C2, [0x3C3]), (0x3D0, [0x3B2]), (0x3D1, [0x3B8]),
  (0x3D5, [0x3C6]), (0x3D6, [0x3C0]), (0x3F0, [0x3BA]), (0x3F1, [0x3C1]),
  (0x3F5, [0x3B5]), (0x587, [0x565, 0x582]), (0x13A0, [0x13A0]), (0x13A1, [0x13A1]),
  (0x13A2, [0x13A2]), (0x13A3, [0x13A3]), (0x13A4, [0x13A4]), (0x13A5, [0x13A5]),
  (0x13A6, [0x13A6]), (0x13A7, [0x13A7]), (0x13A8, [0x13A8]), (0x13A9, [0x13A9]),
  (0x13AA, [0x13AA]), (0x13AB, [0x13AB]), (0x13AC, [0x13AC]), (0x13AD, [0x13AD]),
  (0x13AE, [0x13AE]), (0x13AF, [0x13AF]), (0x13B0, [0x13B0]), (0x13B1, [0x13B1]),
  (0x13B2, [0x13B2]), (0x13B3, [0x13B3]), (0x13B4, [0x13B4]), (0x13B5, [0x13B5]),
  (0x13B6, [0x13B6]), (0x13B7, [0x13B7]), (0x13B8, [0x13B8]), (0x13B9, [0x13B9]),
  (0x13BA, [0x13BA]), (0x13BB, [0x13BB]), (0x13BC, [0x13BC]), (0x13BD, [0x13BD]),
  (0x13BE, [0x13BE]), (0x13BF, [0x13BF]), (0x13C0, [0x13C0]), (0x13C1, [0x13C1]),
  (0x13C2, [0x13C2]), (0x13C3, [0x13C3]), (0x13C4, [0x13C4]), (0x13C5, [0x13C5]),
  (0x13C6, [0x13C6]), (0x13C7, [0x13C7]), (0x13C8, [0x13C8]), (0x13C9, [0x13C9]),
  (0x13CA, [0x13CA]), (0x13CB, [0x13CB]), (0x13CC, [0x13CC]), (0x13CD, [0x13CD]),
  (0x13CE, [0x13CE]), (0x13CF, [0x13CF]), (0x13D0, [0x13D0]), (0x13D1, [0x13D1]),
  (0x13D2, [0x13D2]), (0x13D3, [0x13D3]), (0x13D4, [0x13D4]), (0x13D5, [0x13D5]),
  (0x13D6, [0x13D6]), (0x13D7, [0x13D7]), (0x13D8, [0x13D8]), (0x13D9, [0x13D9]),
  (0x13DA, [0x13DA]), (0x13DB, [0x13DB]), (0x13DC, [0x13DC]), (0x13DD, [0x13DD]),
  (0x13DE, [0x13DE]), (0x13DF, [0x13DF]), (0x13E0, [0x13E0]), (0x13E1, [0x13E1]),
  (0x13E2, [0x13E2]), (0x13E3, [0x13E3]), (0x13E4, [0x13E4]), (0x13E5, [0x13E5]),
  (0x13E6, [0x13E6]), (0x13E7, [0x13E7]), (0x13E8, [0x13E8]), (0x13E9, [0x13E9]),
  (0x13EA, [0x13EA]), (0x13EB, [0x13EB]), (0x13EC, [0x13EC]), (0x13ED, [0x13ED]),
  (0x13EE, [0x13EE]), (0x13EF, [0x13EF]), (0x13F0, [0x13F0]), (0x13F1, [0x13F1]),
  (0x13F2, [0x13F2]), (0x13F3, [0x13F3]), (0x13F4, [0x13F4]), (0x13F5, [0x13F5]),
  (0x13F8, [0x13F0]), (0x13F9, [0x13F1]), (0x13FA, [0x13F2]), (0x13FB, [0x13F3]),
  (0x13FC, [0x13F4]), (0x13FD, [0x13F5]), (0x1C80, [0x432]), (0x1C81, [0x434]),
  (0x1C82, [0x43E]), (0x1C83, [0x441]), (0x1C84, [0x442]), (0x1C85, [0x442]),
  (0x1C86, [0x44A]), (0x1C87, [0x463]), (0x1C88, [0xA64B]), (0x1E96, [0x68, 0x331]),
  (0x1E97, [0x74, 0x308]), (0x1E98, [0x77, 0x30A]), (0x1E99, [0x79, 0x30A]),
  (0x1E9A, [0x61, 0x2BE]), (0x1E9B, [0x1E61]), (0x1E9E, [0x73, 0x73]),
  (0x1F50, [0x3C5, 0x313]), (0x1F52, [0x3C5, 0x313, 0x300]),
  (0x1F54, [0x3C5, 0x313, 0x301]), (0x1F56, [0x3C5, 0x313, 0x342]),
  (0x1F80, [0x1F00, 0x3B9]), (0x1F81, [0x1F01, 0x3B9]), (0x1F82, [0x1F02, 0x3B9]),
  (0x1F83, [0x1F03, 0x3B9]), (0x1F84, [0x1F04, 0x3B9]), (0x1F85, [0x1F05, 0x3B9]),
  (0x1F86, [0x1F06, 0x3B9]), (0x1F87, [0x1F07, 0x3B9]), (0x1F88, [0x1F00, 0x3B9]),
  (0x1F89, [0x1F01, 0x3B9]), (0x1F8A, [0x1F02, 0x3B9]), (0x1F8B, [0x1F03, 0x3B9]),
  (0x1F8C, [0x1F04, 0x3B9]), (0x1F8D, [0x1F05, 0x3B9]), (0x1F8E, [0x1F06, 0x3B9]),
  (0x1F8F, [0x1F07, 0x3B9]), (0x1F90, [0x1F20, 0x3B9]), (0x1F91, [0x1F21, 0x3B9]),
  (0x1F92, [0x1F22, 0x3B9]), (0x1F93, [0x1F23, 0x3B9]), (0x1F94, [0x1F24, 0x3B9]),
  (0x1F95, [0x1F25, 0x3B9]), (0x1F96, [0x1F26, 0x3B9]), (0x1F97, [0x1F27, 0x3B9]),
  (0x1F98, [0x1F20, 0x3B9]), (0x1F99, [0x1F21, 0x3B9]), (0x1F9A, [0x1F22, 0x3B9]),
  (0x1F9B, [0x1F23, 0x3B9]), (0x1F9C, [0x1F24, 0x3B9]), (0x1F9D, [0x1F25, 0x3B9]),
  (0x1F9E, [0x1F26, 0x3B9]), (0x1F9F, [0x1F27, 0x3B9]), (0x1FA0, [0x1F60, 0x3B9]),
  (0x1FA1, [0x1F61, 0x3B9]), (0x1FA2, [0x1F62, 0x3B9]), (0x1FA3, [0x1F63, 0x3B9]),
  (0x1FA4, [0x1F64, 0x3B9]), (0x1FA5, [0x1F65, 0x3B9]), (0x1FA6, [0x1F66, 0x3B9]),
  (0x1FA7, [0x1F67, 0x3B9]), (0x1FA8, [0x1F60, 0x3B9]), (0x1FA9, [0x1F61, 0x3B9]),
  (0x1FAA, [0x1F62, 0x3B9]), (0x1FAB, [0x1F63, 0x3B9]), (0x1FAC, [0x1F64, 0x3B9]),
  (0x1FAD, [0x1F65, 0x3B9]), (0x1FAE, [0x1F66, 0x3B9]), (0x1FAF, [0x1F67, 0x3B9]),
  (0x1FB2, [0x1F70, 0x3B9]), (0x1FB3, [0x3B1, 0x3B9]), (0x1FB4, [0x3AC, 0x3B9]),
  (0x1FB6, [0x3B1, 0x342]), (0x1FB7, [0x3B1, 0x342, 0x3B9]), (0x1FBC, [0x3B1, 0x3B9]),
  (0x1FBE, [0x3B9]), (0x1FC2, [0x1F74, 0x3B9]), (0x1FC3, [0x3B7, 0x3B9]),
  (0x1FC4, [0x3AE, 0x3B9]), (0x1FC6, [0x3B7, 0x342]), (0x1FC7, [0x3B7, 0x342, 0x3B9]),
  (0x1FCC, [0x3B7, 0x3B9]), (0x1FD2, [0x3B9, 0x308, 0x300]),
  (0x1FD3, [0x3B9, 0x308, 0x301]), (0x1FD6, [0x3B9, 0x342]),
  (0x1FD7, [0x3B9, 0x308, 0x342]), (0x1FE2, [0x3C5, 0x308, 0x300]),
  (0x1FE3, [0x3C5, 0x308, 0x301]), (0x1FE4, [0x3C1, 0x313]), (0x1FE6, [0x3C5, 0x342]),
  (0x1FE7, [0x3C5, 0x308, 0x342]), (0x1FF2, [0x1F7C, 0x3B9]), (0x1FF3, [0x3C9, 0x3B9]),
  (0x1FF4, [0x3CE, 0x3B9]), (0x1FF6, [0x3C9, 0x342]), (0x1FF7, [0x3C9, 0x342, 0x3B9]),
  (0x1FFC, [0x3C9, 0x3B9]), (0xAB70, [0x13A0]), (0xAB71, [0x13A1]), (0xAB72, [0x13A2]),
  (0xAB73, [0x13A3]), (0xAB74, [0x13A4]), (0xAB75, [0x13A5]), (0xAB76, [0x13A6]),
  (0xAB77, [0x13A7]), (0xAB78, [0x13A8]), (0xAB79, [0x13A9]), (0xAB7A, [0x13AA]),
  (0xAB7B, [0x13AB]), (0xAB7C, [0x13AC]), (0xAB7D, [0x13AD]), (0xAB7E, [0x13AE]),
  (0xAB7F, [0x13AF]), (0xAB80, [0x13B0]), (0xAB81, [0x13B1]), (0xAB82, [0x13B2]),
  (0xAB83, [0x13B3]), (0xAB84, [0x13B4]), (0xAB85, [0x13B5]), (0xAB86, [0x13B6]),
  (0xAB87, [0x13B7]), (0xAB88, [0x13B8]), (0xAB89, [0x13B9]), (0xAB8A, [0x13BA]),
  (0xAB8B, [0x13BB]), (0xAB8C, [0x13BC]), (0xAB8D, [0x13BD]), (0xAB8E, [0x13BE]),
  (0xAB8F, [0x13BF]), (0xAB90, [0x13C0]), (0xAB91, [0x13C1]), (0xAB92, [0x13C2]),
  (0xAB93, [0x13C3]), (0xAB94, [0x13C4]), (0xAB95, [0x13C5]), (0xAB96, [0x13C6]),
  (0xAB97, [0x13C7]), (0xAB98, [0x13C8]), (0xAB99, [0x13C9]), (0xAB9A, [0x13CA]),
  (0xAB9B, [0x13CB]), (0xAB9C, [0x13CC]), (0xAB9D, [0x13CD]), (0xAB9E, [0x13CE]),
  (0xAB9F, [0x13CF]), (0xABA0, [0x13D0]), (0xABA1, [0x13D1]), (0xABA2, [0x13D2]),
  (0xABA3, [0x13D3]), (0xABA4, [0x13D4]), (0xABA5, [0x13D5]), (0xABA6, [0x13D6]),
  (0xABA7, [0x13D7]), (0xABA8, [0x13D8]), (0xABA9, [0x13D9]), (0xABAA, [0x13DA]),
  (0xABAB, [0x13DB]), (0xABAC, [0x13DC]), (0xABAD, [0x13DD]), (0xABAE, [0x13DE]),
  (0xABAF, [0x13DF]), (0xABB0, [0x13E0]), (0xABB1, [0x13E1]), (0xABB2, [0x13E2]),
  (0xABB3, [0x13E3]), (0xABB4, [0x13E4]), (0xABB5, [0x13E5]), (0xABB6, [0x13E6]),
  (0xABB7, [0x13E7]), (0xABB8, [0x13E8]), (0xABB9, [0x13E9]), (0xABBA, [0x13EA]),
  (0xABBB, [0x13EB]), (0xABBC, [0x13EC]), (0xABBD, [0x13ED]), (0xABBE, [0x13EE]),
  (0xABBF, [0x13EF]), (0xFB00, [0x66, 0x66]), (0xFB01, [0x66, 0x69]),
  (0xFB02, [0x66, 0x6C]), (0xFB03, [0x66, 0x66, 0x69]), (0xFB04, [0x66, 0x66, 0x6C]),
  (0xFB05, [0x73, 0x74]), (0xFB06, [0x73, 0x74]), (0xFB13, [0x574, 0x576]),
  (0xFB14, [0x574, 0x565]), (0xFB15, [0x574, 0x56B]), (0xFB16, [0x57E, 0x576]),
  (0xFB17, [0x574, 0x56D])]

def foldChar (c : Char) : List Char :=
  match foldings.lookup c.toNat with
  | some cs => cs.map Char.ofNat
  | none => lowerChar c

def foldCase (s : String) : String := String.ofList (s.toList.flatMap foldChar)

end SchemaDocs.Text
