/-!
# Characters of several scripts, as data

The characters that belong to other scripts than the one under which they are
listed, as hexadecimal ranges, under the short names of these scripts.
-/

namespace ServiceLoom.Text.Script

/-- The short names of scripts and the characters that belong to all of them. -/
def shared : List (List String × List String) := [
  (["Grek"],
     ["342 345 1dc0-1dc1"]),
  (["Latn"],
     ["363-36f"]),
  (["Cyrl Perm"],
     ["483"]),
  (["Cyrl Glag"],
     ["484 487 2e43 a66f"]),
  (["Cyrl Latn"],
     ["485-486"]),
  (["Arab Rohg Nkoo Syrc Thaa Yezi"],
     ["60c 61b"]),
  (["Arab Syrc Thaa"],
     ["61c"]),
  (["Adlm Arab Rohg Nkoo Syrc Thaa Yezi"],
     ["61f"]),
  (["Adlm Arab Rohg Mand Mani Ougr Phlp Sogd Syrc"],
     ["640"]),
  (["Arab Syrc"],
     ["64b-655 670"]),
  (["Arab Thaa Yezi"],
     ["660-669"]),
  (["Arab Rohg"],
     ["6d4"]),
  (["Beng Deva Gran Gujr Guru Knda Latn Mlym Orya Shrd Taml Telu Tirh"],
     ["951"]),
  (["Beng Deva Gran Gujr Guru Knda Latn Mlym Orya Taml Telu Tirh"],
     ["952"]),
  (["Beng Deva Dogr Gran Gujr Gong Guru Knda Sind Mahj Mlym Gonm Nand Orya",
    "Sinh Sylo Takr Taml Telu Tirh"],
     ["964"]),
  (["Beng Deva Dogr Gran Gujr Gong Guru Knda Sind Limb Mahj Mlym Gonm Nand",
    "Orya Sinh Sylo Takr Taml Telu Tirh"],
     ["965"]),
  (["Deva Dogr Kthi Mahj"],
     ["966-96f"]),
  (["Beng Cakm Sylo"],
     ["9e6-9ef"]),
  (["Guru Mult"],
     ["a66-a6f"]),
  (["Gujr Khoj"],
     ["ae6-aef"]),
  (["Gran Taml"],
     ["be6-bf3 11301 11303 1133b-1133c 11fd0-11fd1 11fd3"]),
  (["Knda Nand"],
     ["ce6-cef"]),
  (["Cakm Mymr Tale"],
     ["1040-1049"]),
  (["Geor Latn"],
     ["10fb"]),
  (["Buhd Hano Tglg Tagb"],
     ["1735-1736"]),
  (["Mong Phag"],
     ["1802-1803 1805"]),
  (["Beng Deva Gran Knda"],
     ["1cd0 1cd2"]),
  (["Deva"],
     ["1cd1 1cd4 1cdb 1cde-1cdf 1ce2-1ce8 1ceb-1cec 1cee-1cf1"]),
  (["Deva Gran"],
     ["1cd3 1cf3 1cf8-1cf9"]),
  (["Beng Deva"],
     ["1cd5-1cd6 1cd8 1ce1 1cea 1ced 1cf5-1cf6 a8f1"]),
  (["Deva Shrd"],
     ["1cd7 1cd9 1cdc-1cdd 1ce0"]),
  (["Deva Knda Mlym Orya Taml Telu"],
     ["1cda"]),
  (["Deva Nand"],
     ["1ce9"]),
  (["Beng Deva Gran Knda Nand Orya Telu Tirh"],
     ["1cf2"]),
  (["Deva Gran Knda"],
     ["1cf4"]),
  (["Beng"],
     ["1cf7"]),
  (["Nand"],
     ["1cfa"]),
  (["Cyrl Syrc"],
     ["1df8"]),
  (["Syrc"],
     ["1dfa"]),
  (["Latn Mong"],
     ["202f"]),
  (["Deva Gran Latn"],
     ["20f0"]),
  (["Bopo Hani Hang Hira Kana Yiii"],
     ["3001-3002 3008-3011 3014-301b 30fb ff61-ff65"]),
  (["Bopo Hani Hang Hira Kana"],
     ["3003 3013 301c-301f 3030 3037 fe45-fe46"]),
  (["Hani"],
     ["3006 303e-303f 3190-319f 31c0-31e3 3220-3247 3280-32b0 32c0-32cb 32ff",
      "3358-3370 337b-337f 33e0-33fe 1d360-1d371 1f250-1f251"]),
  (["Bopo Hani"],
     ["302a-302d"]),
  (["Hira Kana"],
     ["3031-3035 3099-309c 30a0 30fc ff70 ff9e-ff9f"]),
  (["Hani Hira Kana"],
     ["303c-303d"]),
  (["Hani Latn"],
     ["a700-a707"]),
  (["Deva Dogr Gujr Guru Kthi Knda Khoj Sind Mahj Mlym Modi Nand Takr Tirh"],
     ["a830-a832"]),
  (["Deva Dogr Gujr Guru Kthi Knda Khoj Sind Mahj Modi Nand Takr Tirh"],
     ["a833-a835"]),
  (["Deva Dogr Gujr Guru Kthi Khoj Sind Mahj Modi Takr Tirh"],
     ["a836-a839"]),
  (["Deva Taml"],
     ["a8f3"]),
  (["Kali Latn Mymr"],
     ["a92e"]),
  (["Bugi Java"],
     ["a9cf"]),
  (["Arab Nkoo"],
     ["fd3e-fd3f"]),
  (["Arab Thaa"],
     ["fdf2 fdfd"]),
  (["Cprt Cpmn Linb"],
     ["10100-10101"]),
  (["Cprt Linb"],
     ["10102 10137-1013f"]),
  (["Cprt Lina Linb"],
     ["10107-10133"]),
  (["Arab Copt"],
     ["102e0-102fb"]),
  (["Mani Ougr"],
     ["10af2"]),
  (["Dupl"],
     ["1bca0-1bca3"])]

end ServiceLoom.Text.Script
