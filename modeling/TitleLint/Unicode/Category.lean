import TitleLint.Unicode.Run

namespace TitleLint.Unicode

/-- General categories of characters. -/
inductive Category where
  | uppercaseLetter
  | lowercaseLetter
  | titlecaseLetter
  | modifierLetter
  | otherLetter
  | nonspacingMark
  | spacingMark
  | enclosingMark
  | decimalNumber
  | letterNumber
  | otherNumber
  | connectorPunctuation
  | dashPunctuation
  | openPunctuation
  | closePunctuation
  | initialPunctuation
  | finalPunctuation
  | otherPunctuation
  | mathSymbol
  | currencySymbol
  | modifierSymbol
  | otherSymbol
  | spaceSeparator
  | lineSeparator
  | paragraphSeparator
  | control
  | format
  | surrogate
  | privateUse
  | unassigned
  deriving DecidableEq, Repr

namespace Category

/-- The letter that stands for a category in the table of runs. -/
def ofSymbol : Char → Category
  | 'A' => .uppercaseLetter
  | 'B' => .lowercaseLetter
  | 'C' => .titlecaseLetter
  | 'D' => .modifierLetter
  | 'E' => .otherLetter
  | 'F' => .nonspacingMark
  | 'G' => .spacingMark
  | 'H' => .enclosingMark
  | 'I' => .decimalNumber
  | 'J' => .letterNumber
  | 'K' => .otherNumber
  | 'L' => .connectorPunctuation
  | 'M' => .dashPunctuation
  | 'N' => .openPunctuation
  | 'O' => .closePunctuation
  | 'P' => .initialPunctuation
  | 'Q' => .finalPunctuation
  | 'R' => .otherPunctuation
  | 'S' => .mathSymbol
  | 'T' => .currencySymbol
  | 'U' => .modifierSymbol
  | 'V' => .otherSymbol
  | 'W' => .spaceSeparator
  | 'X' => .lineSeparator
  | 'Y' => .paragraphSeparator
  | 'Z' => .control
  | 'w' => .format
  | 'x' => .surrogate
  | 'y' => .privateUse
  | _ => .unassigned

/-- Stretches of characters of one category, in code point order: a letter for the category, then
the length in hexadecimal unless it is one. -/
def table : String := String.join
    ["Z20WR3TR3NORSRMR2IaR2S3R2A1aNROULUB1aNSOSZ21WRT4VRUVEPSwVUVSK2UBR2UKEQK3RA17SA7B18SB8ABABABA",
      "BABABABABABABABABABABABABABABABABABABABABABABABAB2ABABABABABABABAB2ABABABABABABABABABABABABA",
      "BABABABABABABABABABABA2BABAB3A2BABA2BA3B2A4BA2BA3B3A2BA2BABABA2BAB2ABA2BA3BABA2B2EAB3E4ACBAC",
      "BACBABABABABABABABAB2ABABABABABABABABAB2ACBABA3BABABABABABABABABABABABABABABABABABABABABABAB",
      "ABABABABABABAB7A2BA2B2ABA4BABABABAB45E2B1aD12U4DcUeD5U7DUDU11F70ABABDUABz2DB3RAz4U2ARA3zAzA2",
      "BA11zA9B23AB2A3B3ABABABABABABABABABABABAB5ABSABA2B2A33B30ABABABABABABABABABABABABABABABABABV",
      "F5H2ABABABABABABABABABABABABABABABABABABABABABABABABABABABA2BABABABABABAB2ABABABABABABABABAB",
      "ABABABABABABABABABABABABABABABABABABABABABABABABABABABABABABABABABABABABABABABzA26z2DR6B29RM",
      "z2V2TzF2dMFRF2RF2RFz8E1bz4E4R2zbw6S3R2TR2V2FbRwR3E20DEaF15IaR4E2FE63REF7wVF6D2F2VF4E2IaE3V2E",
      "RezwEFE1eF1bz2E59FbEzeIaE21F9D2VR3Dz2FT2E16F4DF9DF3DF5z2RfzE19F3z2RzEbz5E18UE7w2z5F9E29DF18w",
      "F20GE36FGFEG3F8G4FG2EF7EaF2R2IaRDEfFG2zE8z2E2z2E16zE7zEz3E4z2FEG3F4z2G2z2G2FEz8Gz4E2zE3F2z2I",
      "aE2T2K6VTERFz2F2GzE6z4E2z2E16zE7zE2zE2zE2z2FzG3F2z4F2z2F3z3Fz7E4zEz7IaF2E3FRzaF2GzE9zE3zE16z",
      "E7zE2zE5z2FEG3F5zF2GzG2Fz2EzfE2F2z2IaRTz7EF6zFG2zE8z2E2z2E16zE7zE2zE5z2FEGFGF4z2G2z2G2Fz7F2G",
      "z4E2zE3F2z2IaVEK6zaFEzE6z3E3zE4z3E2zEzE2z3E2z3E3z3Ecz4G2FG2z3G3zG3Fz2Ez6GzeIaK3V6TVz5FG3FE8z",
      "E3zE17zE10z2FEF3G4zF3zF4z7F2zE3zE2z2E2F2z2Iaz7RK7VEFG2RE8zE3zE17zEazE5z2FEGFG5zFG2zG2F2z7G2z",
      "5E3zE2F2z2IazE2GzcF2G2E9zE3zE29F2EG3F4zG3zG3FEVz4E3GK7E3F2z2IaK9VE6zFG2zE12z3E18zE9zEz2E7z3F",
      "z4G3F3zFzG8z6Iaz2G2RzcE30FE2F7z4TE6DF8RIaR2z25E2zEzE5zE18zEzEaFE2F9Ez2E5zDzF7zIaz2E4z20EV3Rf",
      "VRV3F2V6IaKaVFVFVFNONOG2E8zE24z4FeGF5RF2E5FbzF24zV8FV6zV2R5V4R2z25E2bG2F4GF6GF2G2F2EIaR6E6G2",
      "F2E4F3EG3E2G7E3F4EdFG2F2G6FEGIaG3FV2A26zAz5Az2B2bRDB3E149zE4z2E7zEzE4z2E29zE4z2E21zE4z2E7zEz",
      "E4z2EfzE39zE4z2E43z2F3R9K14z3E10Vaz6A56z2B6z2ME26cVRE11WE1aNOz3E4bR3J3E8z7E12F3Gz9E13F2GR2z9",
      "E12F2zcEdzE3zF2zcE34F2GF7G8FG2FbR3DR3TEFz2Iaz6Kaz6R6MR4F3wFIaz6E23DE35z7E5F2E22FEz5E46zaE1fz",
      "F3G4F2G3z4G2FG6F3z4Vz3R2IaE1ez2E5zbE2cz4E1az6IaKz3V22E17F2G2Fz2R2E35GFGF7zFGFG2F8G6Faz2FIaz6",
      "Iaz6R7DR6z2FeHF1fz2Fcz14F4GE2fFGF5GFG5FG2E8zR2IaR7VaF9V9R3F2GE1eGF4G2F2GF3E2IaE2cFGF2G3FGF3G",
      "2z8R4E24G8F8G2F2z3R5Iaz3E3IaE1eD6R2B9ABz5A2bz2A3R8z8F3RFdGF7E4FE6FE2GF2Ez5B2cD3fBdDB22D25F40",
      "ABABABABABABABABABABABABABABABABABABABABABABABABABABABABABABABABABABABABABABABABABABABABABAB",
      "ABABABABABABABABABABABABABABABABABABABABABABABABABABABABAB9ABABABABABABABABABABABABABABABABA",
      "BABABABABABABABABABABABABABABABABABABABABABABABABABABABABABABABAB9A8B6z2A6z2B8A8B8A8B6z2A6z2",
      "B8zAzAzAzAB8A8Bez2B8C8B8C8B8C8B5zB2A4CUBU3B3zB2A4CU3B4z2B2A4zU3B8A5U3z2B3zB2A4CU2zWbw5M6R2PQ",
      "NP2QNPR8XYw5WR9PQR4L2R3SNORbSRLRaWw5zwaKDz2K6S3NODKaS3NOzDdz3T22zeFdH4FH3FczfV2AV4AV2BA3B2A3",
      "BVAV2SA5V6AVAVAVA4VBA4BE4BV2B2A2S5AB4VSV2BVK10J23ABJ4KV2z4S5V5S2V4SV2SV2SV7SV1fS2V2SVSV1fS10",
      "cV8NONOV14S2V7NOV51SV1eS19V28S6V48z16Vbz15K3cV4eK16Vb7SV9SV36S8V6fSVf8NONONONONONONOK1eV2cS5",
      "NOS1fNONONONONOS10V100S83NONONONONONONONONONONOS3fNONOS20NOS102V30S15V2S6V27z2V8aA30B30ABA3B",
      "2ABABABA4BAB2AB6D2A3BABABABABABABABABABABABABABABABABABABABABABABABABABABABABABABABABABABABA",
      "BABABABABABABABABABABABABAB2V6ABABF3ABz5R4KR2B26zBz5Bz2E38z7DRzeFE17z9E7zE7zE7zE7zE7zE7zE7zE",
      "7zF20R2PQPQR3PQRPQR9MR2MRPQR2PQNONONONOR5DRaM2R4MRNRdV2R3NONONONOMz22V1azV59zcVd6z1aV10WR3VD",
      "EJNONONONONOV2NONONONOMNO2VJ9F4G2MD5V2J3DERV2zE56z2F2U2D2EME5aRD3Ez5E2bzE5ezV2K4VaE20V26z9VE",
      "10V1fzKaV1eK8VKfV20KaV27KfV140E19c0V40E5215DE477z3V37z9E28D6R2E10cDR3E10IaE2z14ABABABABABABA",
      "BABABABABABABABABABABABABABABABABEFH3RFaRDABABABABABABABABABABABABABABD2F2E46JaF2R6z8U17D9U2",
      "ABABABABABABAB3ABABABABABABABABABABABABABABABABABABABABABABABABABABABABABABABDB8ABABA2BABABA",
      "BABDU2ABABEABAB3ABABABABABABABABABABA5BA5BABABABABABABABA4BABA2BABABABABABABABAz14D4ABED2BE7",
      "FE3FE4FE17G2F2GV4Fz3K6V2TVz6E34R4z8G2E32G10F2z8R2Iaz6F12E6R3ERE2FIaE1cF8R2E17FbG2zbRE1dz3F3G",
      "E2fFG2F4G2F2G3RdzDIaz4R2E5FDE9IaE5zE29F6G2F2G2F2z9E3FE8FGz2Iaz2R4E10DE6V3EGFGE32FEF3E2F2E5F2",
      "EFEz18E2DR2EbGF2G2R2ED2GFzaE6z2E6z2E6z9E7zE7zB2bUD4B9DU2z4B50E23G2FG2FG2RGFz2Iaz6E2ba4zcE17z",
      "4E31z4x800y1900E16ez2E6az26B7zcB5z5EFEaSEdzE5zEzE2zE2zE6cU11V10E16bONV10E40V2E36V8z20EcTV3F1",
      "0R7NORz6F10RM2L2NONONONONONONONOR2NOR4L3R3zR4MNONONOR3SMS3zRTR2z4E5zE87z2wzR3TR3NORSRMR2IaR2",
      "S3R2A1aNROULUB1aNSOSNORNOR2EaDE2dD2E1fz3E6z2E6z2E6z2E3z3T2SUVT2zVS4V2zaw3V2z2EczE1azE13zE2zE",
      "fz2Eez22E7bz5R3z4K2dz3V9J35K4V11K2V3zVdz3Vz2fV2dFz82E1dz3E31zfFK1bz4E20K4z9E14JE8Jz5E26F5z5E",
      "1ezRE24z4E8RJ5z2aA28B28E4ez2Iaz6A24z4B24z4E28z8E34zbRAbzAfzA7zA2zBbzBfzB7zB2z3E34zcE137z9E16",
      "zaE8z18D6zD2azD9z45E6z2EzE2czE2z3Ez2E17zRK8E17V2K7E1fz8K9z30E13zE2z5K5E16K6z3RE1az5RE1az26E3",
      "8z4K2E2K10z2K2eEF3zF2z5F4E4zE3zE1dz2F3z4FK9z7R9z7E1dK2RE1dK3z20E8VE1cF2z4K5R7z9E36z3R7E16z2K",
      "8E13z5K8E12z7R4zcK7z50E49z37A33zdB33z7K6E24F4z8Iaz6IaE4DEA16z3F5MDB16z8S2zd0K1fzE2azF2Mz2E2z",
      "10E3DE2z8RV8z21F6E1dKaEz8E16FbK4R5z16E12F4R4z26E15K7z14E17z9GFGE35FfR7z4K14IaFE2F2Ez9F3GE2dG",
      "3F4G2F2R2wR4Fzawz2E19z7Iaz6F3E24F5GF8zIaR4EG2Ez8E23FR2Ez9F2GE30G3F9G2E4R4F4RGFIaERER3zK14zbE",
      "12zE19G3F3G2FGF2R6FE2Fz3eE7zEzE4zEfzEaRz6E2fFG3F8z5Iaz6F2G2zE8z2E2z2E16zE7zE2zE5zF2EG2FG4z2G",
      "2z2G3z2Ez6Gz5E5G2z2F7z3F5zbEazEz2EzE26zEG3F6zGz2GzG4zG2FGFEFER2zR2z8F2z1dE35G3F8G2F3GFE4R5Ia",
      "R2zRFE3z1eE30G3F6GFG4F2GF2E2REz8Iaza6E2fG3F4z2G4F2GF2R17E4F2z22E30G3F8G2FGF2R3EzbIaz6Rdz13E2",
      "bFGFG2F6GFERz6Iaz6I14z1cE1bz2FGFG2F4GF5z4IaK2R3VE7zb9E2cG3F9GF2Rz64A20B20IaK9zcE8z2Ez2E8zE2z",
      "E18G6zG2z2F2GFEGEGFR3z9Iaz46E8z2E27G3F4z2F2G4FEREGz1bEFaE28F6GEF4R8Fz8EF6G2F3E2eFdGF2R3ER5zd",
      "E49z7Raz56FGF3GFGz58E21RzeIaz6E9zE25GF7zF6GFER5zaIaK13z3R2E1ez2F16zGF7GF2GF2z49E7zE2zE26F6z3",
      "FzF2zF7EFz8Iaz6E6zE2zE20G5zF2zG2FGFEz7Iaz6E29DE2z4Iazf6E13F2G2R2z7F2EGEdzE22G2F5z3G2FGFRdIaF",
      "z55EzfK15V8T4V11zdRE39az66J6fzR5zbEc4za4cE61R2zdE430w10FE6FfzaEf9bz5E247z1ab9E1eFcG3F3Iaz6c6",
      "E239z7E1fzIaz4R2E4fzIaz6E1ez2F5RzaE30F7R5V4D4RVzaIazK7zE15z5E13z1b0D3E28D2R3Iazc6A20B20K17R4",
      "z5A19z2B19z2cE4bz4FEG37z7F4Ddz40D2RDFzbG2D2J3z9E1cd6z29E20z61E73z21fdD4zD7zD2zE123zfEz1dE3z2",
      "EzeE4z8E18cz904E6bz5Edz3E9z7Eaz2VF2Rw4zf5cVf0IaV3z3V1b4z6V17zfV10SzfF2ez2F17z9V74z3cVf6zaV27",
      "z2V3cG2F3V3G6w8F8V2F7V1eF4V3dz15V42F3Vz7aK14zcK14zcV57z9K19z87A1aB1aA1aB7zB12A1aB1aAzA2z2Az2",
      "A2z2A4zA8B4zBzB7zBbA1aB1aA2zA4z2A8zA7zB1aA2zA4zA5zAz3A7zB1aA1aB1aA1aB1aA1aB1aA1aB1aA1aB1aA1a",
      "B1cz2A19SB19SB6A19SB19SB6A19SB19SB6A19SB19SB6A19SB19SB6ABz2I32V200F37V4F32V8FVeFV2R5zfF5zFfz",
      "450BaEB14z6B6zd5F7zF11z2F7zF2zF5z5D3ez21Fz70E2dz3F7D7z2Iaz4EVz140E1eFz11E2cF4Iaz5Tz1d0E1bDF4",
      "Iazd6E1eF2EIaz4Rzc0E1fzE3FE2FE7F2E5Fz8EDze0E7zE4zE2zEfzEc5z2K9F7z29A22B22F7Dz4Iaz4R2z311K3bV",
      "K3TK4z4cK2dVKfzc2E4zE1bzE2zEz2EzEazE4zEzEz6Ez4EzEzEzE3zE2zEz2EzEzEzEzEzE2zEz2E4zE7zE4zE4zEzE",
      "azE11z5E3zE5zE11z34S2z10eV2cz4V64zcVfz2VfzVfzV25zaKdVa1z38V1dzdV2cz4V9z7V2zeV6z9aVfbU5V2d9z3",
      "V11z3Vdz3Vdaz6Vcz4VzfVcz4V38z8Vaz6V28z8V1ez2Vcz4V2zeS9z27V158z8Vez2Vdz3Vbz3V39zVz4V10z2Vcz4V",
      "az7V93zV5cIaVz405Ea6e0z20E111ez2E168ez2E1d31zfE26ez9a2E21ez5e2E134bz5E212azacb87wz1ew60z80Ff",
      "0zfe10yfffez2yfffez2"]

def runs : List (Run Category) := Run.read ofSymbol table.toList

/-- The general category of a character. -/
def of (c : Char) : Category := (Run.at? runs c.toNat).getD .unassigned

def isNumber : Category → Bool
  | .decimalNumber | .letterNumber | .otherNumber => true
  | _ => false

def isSeparator : Category → Bool
  | .spaceSeparator | .lineSeparator | .paragraphSeparator => true
  | _ => false

def isOther : Category → Bool
  | .control | .format | .surrogate | .privateUse | .unassigned => true
  | _ => false

end Category

end TitleLint.Unicode
