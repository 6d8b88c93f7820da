/-!
# Characters of several scripts: the table

The code points of Unicode 16.0 that are written in several scripts, or in another one than the
script they are listed under. An entry holds the codes of the scripts, joined by points, and ranges
of code points.
-/

namespace Understudy.Text

/-- The codes of some scripts and the ranges `first.last` of the code points that they use. -/
def scriptExtensions : List (String × List String) :=
  [("Avst.Cari.Copt.Dupl.Elba.Geor.Glag.Gong.Goth.Grek.Hani.Latn.Lydi.Mahj.Perm.Shaw",
    ["b7.b7"]),
   ("Beng.Cyrl.Deva.Latn.Lisu.Thai.Toto",
    ["2bc.2bc"]),
   ("Bopo.Latn",
    ["2c7.2c7 2c9.2cb 2d9.2d9"]),
   ("Latn.Lisu",
    ["2cd.2cd"]),
   ("Latn.Thai",
    ["2d7.2d7"]),
   ("Cher.Copt.Cyrl.Grek.Latn.Perm.Sunu.Tale",
    ["300.300"]),
   ("Cher.Cyrl.Grek.Latn.Osge.Sunu.Tale.Todr",
    ["301.301"]),
   ("Cher.Cyrl.Latn.Tfng",
    ["302.302"]),
   ("Glag.Latn.Sunu.Syrc.Thai",
    ["303.303"]),
   ("Aghb.Cher.Copt.Cyrl.Goth.Grek.Latn.Osge.Syrc.Tfng.Todr",
    ["304.304"]),
   ("Copt.Elba.Glag.Goth.Kana.Latn",
    ["305.305"]),
   ("Cyrl.Grek.Latn.Perm.Tfng",
    ["306.306"]),
   ("Copt.Dupl.Hebr.Latn.Perm.Syrc.Tale.Tfng.Todr",
    ["307.307"]),
   ("Armn.Cyrl.Dupl.Goth.Grek.Hebr.Latn.Perm.Syrc.Tale.Tfng",
    ["308.308"]),
   ("Latn.Tfng",
    ["309.309"]),
   ("Dupl.Latn.Syrc",
    ["30a.30a"]),
   ("Cher.Cyrl.Latn.Osge",
    ["30b.30b"]),
   ("Cher.Latn.Tale",
    ["30c.30c"]),
   ("Latn.Sunu",
    ["30d.30d 310.310"]),
   ("Ethi.Latn",
    ["30e.30e"]),
   ("Cyrl.Latn.Todr",
    ["311.311"]),
   ("Grek.Latn.Perm.Todr",
    ["313.313"]),
   ("Cher.Dupl.Kana.Latn.Syrc.Tfng",
    ["323.323"]),
   ("Cher.Dupl.Latn.Syrc",
    ["324.324"]),
   ("Latn.Syrc",
    ["325.325 32e.32e"]),
   ("Latn.Sunu.Syrc",
    ["32d.32d"]),
   ("Cher.Latn.Syrc",
    ["330.330"]),
   ("Aghb.Cher.Goth.Latn.Sunu.Syrc.Thai",
    ["331.331"]),
   ("Grek",
    ["342.342 345.345 1dc0.1dc1"]),
   ("Latn.Osge",
    ["358.358"]),
   ("Aghb.Latn.Todr",
    ["35e.35e"]),
   ("Latn",
    ["363.36f"]),
   ("Copt.Grek",
    ["374.375"]),
   ("Cyrl.Perm",
    ["483.483"]),
   ("Cyrl.Glag",
    ["484.484 487.487 2e43.2e43 a66f.a66f"]),
   ("Cyrl.Latn",
    ["485.486"]),
   ("Armn.Geor.Glag",
    ["589.589"]),
   ("Arab.Gara.Nkoo.Rohg.Syrc.Thaa.Yezi",
    ["60c.60c 61b.61b"]),
   ("Arab.Syrc.Thaa",
    ["61c.61c"]),
   ("Adlm.Arab.Gara.Nkoo.Rohg.Syrc.Thaa.Yezi",
    ["61f.61f"]),
   ("Adlm.Arab.Mand.Mani.Ougr.Phlp.Rohg.Sogd.Syrc",
    ["640.640"]),
   ("Arab.Syrc",
    ["64b.655 670.670"]),
   ("Arab.Thaa.Yezi",
    ["660.669"]),
   ("Arab.Rohg",
    ["6d4.6d4"]),
   ("Beng.Deva.Gran.Gujr.Guru.Knda.Latn.Mlym.Nand.Newa.Orya.Shrd.Taml.Telu.Tirh",
    ["951.951"]),
   ("Beng.Deva.Gran.Gujr.Guru.Knda.Latn.Mlym.Newa.Orya.Taml.Telu.Tirh",
    ["952.952"]),
   ("Beng.Deva.Dogr.Gong.Gonm.Gran.Gujr.Guru.Knda.Mahj.Mlym.Nand.Onao.Orya.Sind.Sinh.Sylo." ++
      "Takr.Taml.Telu.Tirh",
    ["964.964"]),
   ("Beng.Deva.Dogr.Gong.Gonm.Gran.Gujr.Gukh.Guru.Knda.Limb.Mahj.Mlym.Nand.Onao.Orya.Sind." ++
      "Sinh.Sylo.Takr.Taml.Telu.Tirh",
    ["965.965"]),
   ("Deva.Dogr.Kthi.Mahj",
    ["966.96f"]),
   ("Beng.Cakm.Sylo",
    ["9e6.9ef"]),
   ("Guru.Mult",
    ["a66.a6f"]),
   ("Gujr.Khoj",
    ["ae6.aef"]),
   ("Gran.Taml",
    ["be6.bf3 11301.11301 11303.11303 1133b.1133c 11fd0.11fd1 11fd3.11fd3"]),
   ("Knda.Nand.Tutg",
    ["ce6.cef"]),
   ("Cakm.Mymr.Tale",
    ["1040.1049"]),
   ("Geor.Glag.Latn",
    ["10fb.10fb"]),
   ("Runr",
    ["16eb.16ed"]),
   ("Buhd.Hano.Tagb.Tglg",
    ["1735.1736"]),
   ("Mong.Phag",
    ["1802.1803 1805.1805"]),
   ("Beng.Deva.Gran.Knda",
    ["1cd0.1cd0 1cd2.1cd2"]),
   ("Deva",
    ["1cd1.1cd1 1cd4.1cd4 1cdb.1cdb 1cde.1cdf 1ce3.1ce8 1cec.1cec 1cee.1cf1"]),
   ("Deva.Gran.Knda",
    ["1cd3.1cd3"]),
   ("Beng.Deva.Newa.Telu.Tirh",
    ["1cd5.1cd5"]),
   ("Beng.Deva.Telu",
    ["1cd6.1cd6"]),
   ("Deva.Newa.Shrd",
    ["1cd7.1cd7"]),
   ("Beng.Deva.Newa.Telu",
    ["1cd8.1cd8"]),
   ("Deva.Shrd",
    ["1cd9.1cd9 1cdc.1cdd 1ce0.1ce0"]),
   ("Deva.Knda.Mlym.Orya.Taml.Telu",
    ["1cda.1cda"]),
   ("Beng.Deva",
    ["1ce1.1ce1 1cf5.1cf6"]),
   ("Deva.Newa.Tirh",
    ["1ce2.1ce2"]),
   ("Deva.Nand.Newa",
    ["1ce9.1ce9"]),
   ("Beng.Deva.Shrd",
    ["1cea.1cea"]),
   ("Deva.Newa",
    ["1ceb.1ceb"]),
   ("Beng.Deva.Newa.Shrd",
    ["1ced.1ced"]),
   ("Beng.Deva.Gran.Knda.Mlym.Nand.Orya.Sinh.Telu.Tirh.Tutg",
    ["1cf2.1cf2"]),
   ("Deva.Gran",
    ["1cf3.1cf3 1cf8.1cf9"]),
   ("Deva.Gran.Knda.Tutg",
    ["1cf4.1cf4"]),
   ("Beng",
    ["1cf7.1cf7"]),
   ("Nand",
    ["1cfa.1cfa"]),
   ("Cyrl.Latn.Syrc",
    ["1df8.1df8"]),
   ("Syrc",
    ["1dfa.1dfa"]),
   ("Latn.Mong.Phag",
    ["202f.202f"]),
   ("Adlm.Arab",
    ["204f.204f"]),
   ("Cari.Geor.Glag.Hung.Lyci.Orkh",
    ["205a.205a"]),
   ("Cari.Grek.Hung.Mero",
    ["205d.205d"]),
   ("Deva.Gran.Latn",
    ["20f0.20f0"]),
   ("Copt.Latn",
    ["2e17.2e17"]),
   ("Avst.Orkh",
    ["2e30.2e30"]),
   ("Avst.Cari.Geor.Hung.Kthi.Lydi.Samr",
    ["2e31.2e31"]),
   ("Dupl",
    ["2e3c.2e3c 1bca0.1bca3"]),
   ("Adlm.Arab.Hung",
    ["2e41.2e41"]),
   ("Hani.Tang",
    ["2ff0.2fff 31ef.31ef"]),
   ("Bopo.Hang.Hani.Hira.Kana.Mong.Yiii",
    ["3001.3001"]),
   ("Bopo.Hang.Hani.Hira.Kana.Mong.Phag.Yiii",
    ["3002.3002"]),
   ("Bopo.Hang.Hani.Hira.Kana",
    ["3003.3003 3013.3013 301c.301f 3030.3030 3037.3037 fe45.fe46"]),
   ("Hani",
    ["3006.3006 303e.303f 3190.319f 31c0.31e5 3220.3247 3280.32b0 32c0.32cb 32ff.32ff 3358.3370",
     "337b.337f 33e0.33fe 1d360.1d371 1f250.1f251"]),
   ("Bopo.Hang.Hani.Hira.Kana.Mong.Tibt.Yiii",
    ["3008.3009"]),
   ("Bopo.Hang.Hani.Hira.Kana.Lisu.Mong.Tibt.Yiii",
    ["300a.300b"]),
   ("Bopo.Hang.Hani.Hira.Kana.Yiii",
    ["300c.3011 3014.301b 30fb.30fb ff61.ff65"]),
   ("Bopo.Hani",
    ["302a.302d"]),
   ("Hira.Kana",
    ["3031.3035 3099.309c 30a0.30a0 30fc.30fc ff70.ff70 ff9e.ff9f"]),
   ("Hani.Hira.Kana",
    ["303c.303d"]),
   ("Hani.Latn",
    ["a700.a707"]),
   ("Deva.Dogr.Gujr.Guru.Khoj.Knda.Kthi.Mahj.Mlym.Modi.Nand.Shrd.Sind.Takr.Tirh.Tutg",
    ["a830.a832"]),
   ("Deva.Dogr.Gujr.Guru.Khoj.Knda.Kthi.Mahj.Modi.Nand.Shrd.Sind.Takr.Tirh.Tutg",
    ["a833.a835"]),
   ("Deva.Dogr.Gujr.Guru.Khoj.Kthi.Mahj.Modi.Sind.Takr.Tirh",
    ["a836.a837 a839.a839"]),
   ("Deva.Dogr.Gujr.Guru.Khoj.Kthi.Mahj.Modi.Shrd.Sind.Takr.Tirh",
    ["a838.a838"]),
   ("Beng.Deva.Tutg",
    ["a8f1.a8f1"]),
   ("Deva.Taml",
    ["a8f3.a8f3"]),
   ("Kali.Latn.Mymr",
    ["a92e.a92e"]),
   ("Bugi.Java",
    ["a9cf.a9cf"]),
   ("Arab.Nkoo",
    ["fd3e.fd3f"]),
   ("Arab.Thaa",
    ["fdf2.fdf2 fdfd.fdfd"]),
   ("Cpmn.Cprt.Linb",
    ["10100.10101"]),
   ("Cprt.Linb",
    ["10102.10102 10137.1013f"]),
   ("Cprt.Lina.Linb",
    ["10107.10133"]),
   ("Arab.Copt",
    ["102e0.102fb"]),
   ("Mani.Ougr",
    ["10af2.10af2"])]

end Understudy.Text
