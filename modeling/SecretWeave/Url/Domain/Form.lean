import SecretWeave.Text.Ranges

/-!
# Forms of characters in domains

A domain is read in a normal form: some characters may stand in a domain and stay as they are, some
are replaced by others, some are dropped, and all others may not stand in a domain. The tables are
those of Unicode 17 for domains. Of the replacements only those by texts with ASCII characters are
written out; every other replacement is of the same direction as what it replaces, or its direction
is the one that is given for it, so that a domain is valid with one as it is with the other.
-/

namespace SecretWeave.Url.Domain

/-! ## 1. Tables -/

/-- The characters outside ASCII that may stand in a domain, as they are or replaced. -/
def allowedRanges : List (Nat × Nat) := Text.readRanges
  ["a0-ac ae-34e 350-377 37a-37f 384-38a 38c 38e-3a1 3a3-52f 531-556 559-58a 58d-58f 591-5c7",
    "5d0-5ea 5ef-5f4 606-61b 61d-6dc 6de-70d 710-74a 74d-7b1 7c0-7fa 7fd-82d 830-83e 840-85b 85e",
    "860-86a 870-88f 897-8e1 8e3-983 985-98c 98f-990 993-9a8 9aa-9b0 9b2 9b6-9b9 9bc-9c4 9c7-9c8",
    "9cb-9ce 9d7 9dc-9dd 9df-9e3 9e6-9fe a01-a03 a05-a0a a0f-a10 a13-a28 a2a-a30 a32-a33 a35-a36",
    "a38-a39 a3c a3e-a42 a47-a48 a4b-a4d a51 a59-a5c a5e a66-a76 a81-a83 a85-a8d a8f-a91 a93-aa8",
    "aaa-ab0 ab2-ab3 ab5-ab9 abc-ac5 ac7-ac9 acb-acd ad0 ae0-ae3 ae6-af1 af9-aff b01-b03 b05-b0c",
    "b0f-b10 b13-b28 b2a-b30 b32-b33 b35-b39 b3c-b44 b47-b48 b4b-b4d b55-b57 b5c-b5d b5f-b63",
    "b66-b77 b82-b83 b85-b8a b8e-b90 b92-b95 b99-b9a b9c b9e-b9f ba3-ba4 ba8-baa bae-bb9 bbe-bc2",
    "bc6-bc8 bca-bcd bd0 bd7 be6-bfa c00-c0c c0e-c10 c12-c28 c2a-c39 c3c-c44 c46-c48 c4a-c4d",
    "c55-c56 c58-c5a c5c-c5d c60-c63 c66-c6f c77-c8c c8e-c90 c92-ca8 caa-cb3 cb5-cb9 cbc-cc4",
    "cc6-cc8 cca-ccd cd5-cd6 cdc-cde ce0-ce3 ce6-cef cf1-cf3 d00-d0c d0e-d10 d12-d44 d46-d48",
    "d4a-d4f d54-d63 d66-d7f d81-d83 d85-d96 d9a-db1 db3-dbb dbd dc0-dc6 dca dcf-dd4 dd6 dd8-ddf",
    "de6-def df2-df4 e01-e3a e3f-e5b e81-e82 e84 e86-e8a e8c-ea3 ea5 ea7-ebd ec0-ec4 ec6 ec8-ece",
    "ed0-ed9 edc-edf f00-f47 f49-f6c f71-f97 f99-fbc fbe-fcc fce-fda 1000-10c5 10c7 10cd",
    "10d0-115e 1161-1248 124a-124d 1250-1256 1258 125a-125d 1260-1288 128a-128d 1290-12b0",
    "12b2-12b5 12b8-12be 12c0 12c2-12c5 12c8-12d6 12d8-1310 1312-1315 1318-135a 135d-137c",
    "1380-1399 13a0-13f5 13f8-13fd 1400-167f 1681-169c 16a0-16f8 1700-1715 171f-1736 1740-1753",
    "1760-176c 176e-1770 1772-1773 1780-17b3 17b6-17dd 17e0-17e9 17f0-17f9 1800-180a 1810-1819",
    "1820-1878 1880-18aa 18b0-18f5 1900-191e 1920-192b 1930-193b 1940 1944-196d 1970-1974",
    "1980-19ab 19b0-19c9 19d0-19da 19de-1a1b 1a1e-1a5e 1a60-1a7c 1a7f-1a89 1a90-1a99 1aa0-1aad",
    "1ab0-1add 1ae0-1aeb 1b00-1b4c 1b4e-1bf3 1bfc-1c37 1c3b-1c49 1c4d-1c8a 1c90-1cba 1cbd-1cc7",
    "1cd0-1cfa 1d00-1f15 1f18-1f1d 1f20-1f45 1f48-1f4d 1f50-1f57 1f59 1f5b 1f5d 1f5f-1f7d",
    "1f80-1fb4 1fb6-1fc4 1fc6-1fd3 1fd6-1fdb 1fdd-1fef 1ff2-1ff4 1ff6-1ffe 2000-200a 200c-200d",
    "2010-2023 2027 202f-205f 2070-2071 2074-208e 2090-209c 20a0-20c1 20d0-20f0 2100-218b",
    "2190-2429 2440-244a 2460-2487 249c-2b73 2b76-2cf3 2cf9-2d25 2d27 2d2d 2d30-2d67 2d6f-2d70",
    "2d7f-2d96 2da0-2da6 2da8-2dae 2db0-2db6 2db8-2dbe 2dc0-2dc6 2dc8-2dce 2dd0-2dd6 2dd8-2dde",
    "2de0-2e5d 2e80-2e99 2e9b-2ef3 2f00-2fd5 3000-303f 3041-3096 3099-30ff 3105-312f 3131-3163",
    "3165-318e 3190-31e5 31f0-321e 3220-33c1 33c3-33c6 33c8-33d7 33d9-a48c a490-a4c6 a4d0-a62b",
    "a640-a6f7 a700-a7dc a7f1-a82c a830-a839 a840-a877 a880-a8c5 a8ce-a8d9 a8e0-a953 a95f-a97c",
    "a980-a9cd a9cf-a9d9 a9de-a9fe aa00-aa36 aa40-aa4d aa50-aa59 aa5c-aac2 aadb-aaf6 ab01-ab06",
    "ab09-ab0e ab11-ab16 ab20-ab26 ab28-ab2e ab30-ab6b ab70-abed abf0-abf9 ac00-d7a3 d7b0-d7c6",
    "d7cb-d7fb f900-fa6d fa70-fad9 fb00-fb06 fb13-fb17 fb1d-fb36 fb38-fb3c fb3e fb40-fb41",
    "fb43-fb44 fb46-fdcf fdf0-fdff fe10-fe11 fe13-fe18 fe20-fe2f fe31-fe51 fe54-fe66 fe68-fe6b",
    "fe70-fe74 fe76-fefc ff01-ff9f ffa1-ffbe ffc2-ffc7 ffca-ffcf ffd2-ffd7 ffda-ffdc ffe0-ffe6",
    "ffe8-ffee 10000-1000b 1000d-10026 10028-1003a 1003c-1003d 1003f-1004d 10050-1005d",
    "10080-100fa 10100-10102 10107-10133 10137-1018e 10190-1019c 101a0 101d0-101fd 10280-1029c",
    "102a0-102d0 102e0-102fb 10300-10323 1032d-1034a 10350-1037a 10380-1039d 1039f-103c3",
    "103c8-103d5 10400-1049d 104a0-104a9 104b0-104d3 104d8-104fb 10500-10527 10530-10563",
    "1056f-1057a 1057c-1058a 1058c-10592 10594-10595 10597-105a1 105a3-105b1 105b3-105b9",
    "105bb-105bc 105c0-105f3 10600-10736 10740-10755 10760-10767 10780-10785 10787-107b0",
    "107b2-107ba 10800-10805 10808 1080a-10835 10837-10838 1083c 1083f-10855 10857-1089e",
    "108a7-108af 108e0-108f2 108f4-108f5 108fb-1091b 1091f-10939 1093f-10959 10980-109b7",
    "109bc-109cf 109d2-10a03 10a05-10a06 10a0c-10a13 10a15-10a17 10a19-10a35 10a38-10a3a",
    "10a3f-10a48 10a50-10a58 10a60-10a9f 10ac0-10ae6 10aeb-10af6 10b00-10b35 10b39-10b55",
    "10b58-10b72 10b78-10b91 10b99-10b9c 10ba9-10baf 10c00-10c48 10c80-10cb2 10cc0-10cf2",
    "10cfa-10d27 10d30-10d39 10d40-10d65 10d69-10d85 10d8e-10d8f 10e60-10e7e 10e80-10ea9",
    "10eab-10ead 10eb0-10eb1 10ec2-10ec7 10ed0-10ed8 10efa-10f27 10f30-10f59 10f70-10f89",
    "10fb0-10fcb 10fe0-10ff6 11000-1104d 11052-11075 1107f-110bc 110be-110c2 110d0-110e8",
    "110f0-110f9 11100-11134 11136-11147 11150-11176 11180-111df 111e1-111f4 11200-11211",
    "11213-11241 11280-11286 11288 1128a-1128d 1128f-1129d 1129f-112a9 112b0-112ea 112f0-112f9",
    "11300-11303 11305-1130c 1130f-11310 11313-11328 1132a-11330 11332-11333 11335-11339",
    "1133b-11344 11347-11348 1134b-1134d 11350 11357 1135d-11363 11366-1136c 11370-11374",
    "11380-11389 1138b 1138e 11390-113b5 113b7-113c0 113c2 113c5 113c7-113ca 113cc-113d5",
    "113d7-113d8 113e1-113e2 11400-1145b 1145d-11461 11480-114c7 114d0-114d9 11580-115b5",
    "115b8-115dd 11600-11644 11650-11659 11660-1166c 11680-116b9 116c0-116c9 116d0-116e3",
    "11700-1171a 1171d-1172b 11730-11746 11800-1183b 118a0-118f2 118ff-11906 11909 1190c-11913",
    "11915-11916 11918-11935 11937-11938 1193b-11946 11950-11959 119a0-119a7 119aa-119d7",
    "119da-119e4 11a00-11a47 11a50-11aa2 11ab0-11af8 11b00-11b09 11b60-11b67 11bc0-11be1",
    "11bf0-11bf9 11c00-11c08 11c0a-11c36 11c38-11c45 11c50-11c6c 11c70-11c8f 11c92-11ca7",
    "11ca9-11cb6 11d00-11d06 11d08-11d09 11d0b-11d36 11d3a 11d3c-11d3d 11d3f-11d47 11d50-11d59",
    "11d60-11d65 11d67-11d68 11d6a-11d8e 11d90-11d91 11d93-11d98 11da0-11da9 11db0-11ddb",
    "11de0-11de9 11ee0-11ef8 11f00-11f10 11f12-11f3a 11f3e-11f5a 11fb0 11fc0-11ff1 11fff-12399",
    "12400-1246e 12470-12474 12480-12543 12f90-12ff2 13000-1342f 13440-13455 13460-143fa",
    "14400-14646 16100-16139 16800-16a38 16a40-16a5e 16a60-16a69 16a6e-16abe 16ac0-16ac9",
    "16ad0-16aed 16af0-16af5 16b00-16b45 16b50-16b59 16b5b-16b61 16b63-16b77 16b7d-16b8f",
    "16d40-16d79 16e40-16e9a 16ea0-16eb8 16ebb-16ed3 16f00-16f4a 16f4f-16f87 16f8f-16f9f",
    "16fe0-16fe4 16ff0-16ff6 17000-18cd5 18cff-18d1e 18d80-18df2 1aff0-1aff3 1aff5-1affb",
    "1affd-1affe 1b000-1b122 1b132 1b150-1b152 1b155 1b164-1b167 1b170-1b2fb 1bc00-1bc6a",
    "1bc70-1bc7c 1bc80-1bc88 1bc90-1bc99 1bc9c-1bc9f 1cc00-1ccfc 1cd00-1ceb3 1ceba-1ced0",
    "1cee0-1cef0 1cf00-1cf2d 1cf30-1cf46 1cf50-1cfc3 1d000-1d0f5 1d100-1d126 1d129-1d172",
    "1d17b-1d1ea 1d200-1d245 1d2c0-1d2d3 1d2e0-1d2f3 1d300-1d356 1d360-1d378 1d400-1d454",
    "1d456-1d49c 1d49e-1d49f 1d4a2 1d4a5-1d4a6 1d4a9-1d4ac 1d4ae-1d4b9 1d4bb 1d4bd-1d4c3",
    "1d4c5-1d505 1d507-1d50a 1d50d-1d514 1d516-1d51c 1d51e-1d539 1d53b-1d53e 1d540-1d544 1d546",
    "1d54a-1d550 1d552-1d6a5 1d6a8-1d7cb 1d7ce-1da8b 1da9b-1da9f 1daa1-1daaf 1df00-1df1e",
    "1df25-1df2a 1e000-1e006 1e008-1e018 1e01b-1e021 1e023-1e024 1e026-1e02a 1e030-1e06d 1e08f",
    "1e100-1e12c 1e130-1e13d 1e140-1e149 1e14e-1e14f 1e290-1e2ae 1e2c0-1e2f9 1e2ff 1e4d0-1e4f9",
    "1e5d0-1e5fa 1e5ff 1e6c0-1e6de 1e6e0-1e6f5 1e6fe-1e6ff 1e7e0-1e7e6 1e7e8-1e7eb 1e7ed-1e7ee",
    "1e7f0-1e7fe 1e800-1e8c4 1e8c7-1e8d6 1e900-1e94b 1e950-1e959 1e95e-1e95f 1ec71-1ecb4",
    "1ed01-1ed3d 1ee00-1ee03 1ee05-1ee1f 1ee21-1ee22 1ee24 1ee27 1ee29-1ee32 1ee34-1ee37 1ee39",
    "1ee3b 1ee42 1ee47 1ee49 1ee4b 1ee4d-1ee4f 1ee51-1ee52 1ee54 1ee57 1ee59 1ee5b 1ee5d 1ee5f",
    "1ee61-1ee62 1ee64 1ee67-1ee6a 1ee6c-1ee72 1ee74-1ee77 1ee79-1ee7c 1ee7e 1ee80-1ee89",
    "1ee8b-1ee9b 1eea1-1eea3 1eea5-1eea9 1eeab-1eebb 1eef0-1eef1 1f000-1f02b 1f030-1f093",
    "1f0a0-1f0ae 1f0b1-1f0bf 1f0c1-1f0cf 1f0d1-1f0f5 1f101-1f1ad 1f1e6-1f202 1f210-1f23b",
    "1f240-1f248 1f250-1f251 1f260-1f265 1f300-1f6d8 1f6dc-1f6ec 1f6f0-1f6fc 1f700-1f7d9",
    "1f7e0-1f7eb 1f7f0 1f800-1f80b 1f810-1f847 1f850-1f859 1f860-1f887 1f890-1f8ad 1f8b0-1f8bb",
    "1f8c0-1f8c1 1f8d0-1f8d8 1f900-1fa57 1fa60-1fa6d 1fa70-1fa7c 1fa80-1fa8a 1fa8e-1fac6 1fac8",
    "1facd-1fadc 1fadf-1faea 1faef-1faf8 1fb00-1fb92 1fb94-1fbfa 20000-2a6df 2a700-2b81d",
    "2b820-2cead 2ceb0-2ebe0 2ebf0-2ee5d 2f800-2fa1d 30000-3134a 31350-33479"]

def replacedRanges : List (Nat × Nat) := Text.readRanges
  ["a0 a8 aa af b2-b5 b8-ba bc-be c0-d6 d8-de 100 102 104 106 108 10a 10c 10e 110 112 114 116",
    "118 11a 11c 11e 120 122 124 126 128 12a 12c 12e 130 132-134 136 139 13b 13d 13f-141 143 145",
    "147 149-14a 14c 14e 150 152 154 156 158 15a 15c 15e 160 162 164 166 168 16a 16c 16e 170 172",
    "174 176 178-179 17b 17d 17f 181-182 184 186-187 189-18b 18e-191 193-194 196-198 19c-19d",
    "19f-1a0 1a2 1a4 1a6-1a7 1a9 1ac 1ae-1af 1b1-1b3 1b5 1b7-1b8 1bc 1c4-1cd 1cf 1d1 1d3 1d5 1d7",
    "1d9 1db 1de 1e0 1e2 1e4 1e6 1e8 1ea 1ec 1ee 1f1-1f4 1f6-1f8 1fa 1fc 1fe 200 202 204 206 208",
    "20a 20c 20e 210 212 214 216 218 21a 21c 21e 220 222 224 226 228 22a 22c 22e 230 232 23a-23b",
    "23d-23e 241 243-246 248 24a 24c 24e 2b0-2b8 2d8-2dd 2e0-2e4 340-341 343-345 370 372 374 376",
    "37a 37e-37f 384-38a 38c 38e-38f 391-3a1 3a3-3ab 3cf-3d6 3d8 3da 3dc 3de 3e0 3e2 3e4 3e6 3e8",
    "3ea 3ec 3ee 3f0-3f2 3f4-3f5 3f7 3f9-3fa 3fd-42f 460 462 464 466 468 46a 46c 46e 470 472 474",
    "476 478 47a 47c 47e 480 48a 48c 48e 490 492 494 496 498 49a 49c 49e 4a0 4a2 4a4 4a6 4a8 4aa",
    "4ac 4ae 4b0 4b2 4b4 4b6 4b8 4ba 4bc 4be 4c0-4c1 4c3 4c5 4c7 4c9 4cb 4cd 4d0 4d2 4d4 4d6 4d8",
    "4da 4dc 4de 4e0 4e2 4e4 4e6 4e8 4ea 4ec 4ee 4f0 4f2 4f4 4f6 4f8 4fa 4fc 4fe 500 502 504 506",
    "508 50a 50c 50e 510 512 514 516 518 51a 51c 51e 520 522 524 526 528 52a 52c 52e 531-556 587",
    "675-678 958-95f 9dc-9dd 9df a33 a36 a59-a5b a5e b5c-b5d e33 eb3 edc-edd f0c f43 f4d f52 f57",
    "f5c f69 f73 f75-f79 f81 f93 f9d fa2 fa7 fac fb9 10a0-10c5 10c7 10cd 10fc 13f8-13fd 1c80-1c89",
    "1c90-1cba 1cbd-1cbf 1d2c-1d2e 1d30-1d3a 1d3c-1d4d 1d4f-1d6a 1d78 1d9b-1dbf 1e00 1e02 1e04",
    "1e06 1e08 1e0a 1e0c 1e0e 1e10 1e12 1e14 1e16 1e18 1e1a 1e1c 1e1e 1e20 1e22 1e24 1e26 1e28",
    "1e2a 1e2c 1e2e 1e30 1e32 1e34 1e36 1e38 1e3a 1e3c 1e3e 1e40 1e42 1e44 1e46 1e48 1e4a 1e4c",
    "1e4e 1e50 1e52 1e54 1e56 1e58 1e5a 1e5c 1e5e 1e60 1e62 1e64 1e66 1e68 1e6a 1e6c 1e6e 1e70",
    "1e72 1e74 1e76 1e78 1e7a 1e7c 1e7e 1e80 1e82 1e84 1e86 1e88 1e8a 1e8c 1e8e 1e90 1e92 1e94",
    "1e9a-1e9b 1e9e 1ea0 1ea2 1ea4 1ea6 1ea8 1eaa 1eac 1eae 1eb0 1eb2 1eb4 1eb6 1eb8 1eba 1ebc",
    "1ebe 1ec0 1ec2 1ec4 1ec6 1ec8 1eca 1ecc 1ece 1ed0 1ed2 1ed4 1ed6 1ed8 1eda 1edc 1ede 1ee0",
    "1ee2 1ee4 1ee6 1ee8 1eea 1eec 1eee 1ef0 1ef2 1ef4 1ef6 1ef8 1efa 1efc 1efe 1f08-1f0f",
    "1f18-1f1d 1f28-1f2f 1f38-1f3f 1f48-1f4d 1f59 1f5b 1f5d 1f5f 1f68-1f6f 1f71 1f73 1f75 1f77",
    "1f79 1f7b 1f7d 1f80-1faf 1fb2-1fb4 1fb7-1fc4 1fc7-1fcf 1fd3 1fd8-1fdb 1fdd-1fdf 1fe3",
    "1fe8-1fef 1ff2-1ff4 1ff7-1ffe 2000-200a 2011 2017 202f 2033-2034 2036-2037 203c 203e",
    "2047-2049 2057 205f 2070-2071 2074-208e 2090-209c 20a8 2100-2103 2105-2107 2109-2113",
    "2115-2116 2119-211d 2120-2122 2124 2126 2128 212a-212d 212f-2139 213b-2140 2145-2149",
    "2150-217f 2183 2189 222c-222d 222f-2230 2329-232a 2460-2487 249c-24ea 2a0c 2a74-2a76 2adc",
    "2c00-2c2f 2c60 2c62-2c64 2c67 2c69 2c6b 2c6d-2c70 2c72 2c75 2c7c-2c80 2c82 2c84 2c86 2c88",
    "2c8a 2c8c 2c8e 2c90 2c92 2c94 2c96 2c98 2c9a 2c9c 2c9e 2ca0 2ca2 2ca4 2ca6 2ca8 2caa 2cac",
    "2cae 2cb0 2cb2 2cb4 2cb6 2cb8 2cba 2cbc 2cbe 2cc0 2cc2 2cc4 2cc6 2cc8 2cca 2ccc 2cce 2cd0",
    "2cd2 2cd4 2cd6 2cd8 2cda 2cdc 2cde 2ce0 2ce2 2ceb 2ced 2cf2 2d6f 2e9f 2ef3 2f00-2fd5 3000",
    "3002 3036 3038-303a 309b-309c 309f 30ff 3131-3163 3165-318e 3192-319f 3200-321e 3220-3247",
    "3250-327e 3280-33c1 33c3-33c6 33c8-33d7 33d9-33ff a640 a642 a644 a646 a648 a64a a64c a64e",
    "a650 a652 a654 a656 a658 a65a a65c a65e a660 a662 a664 a666 a668 a66a a66c a680 a682 a684",
    "a686 a688 a68a a68c a68e a690 a692 a694 a696 a698 a69a a69c-a69d a722 a724 a726 a728 a72a",
    "a72c a72e a732 a734 a736 a738 a73a a73c a73e a740 a742 a744 a746 a748 a74a a74c a74e a750",
    "a752 a754 a756 a758 a75a a75c a75e a760 a762 a764 a766 a768 a76a a76c a76e a770 a779 a77b",
    "a77d-a77e a780 a782 a784 a786 a78b a78d a790 a792 a796 a798 a79a a79c a79e a7a0 a7a2 a7a4",
    "a7a6 a7a8 a7aa-a7ae a7b0-a7b4 a7b6 a7b8 a7ba a7bc a7be a7c0 a7c2 a7c4-a7c7 a7c9 a7cb-a7cc",
    "a7ce a7d0 a7d2 a7d4 a7d6 a7d8 a7da a7dc a7f1-a7f5 a7f8-a7f9 ab5c-ab5f ab69 ab70-abbf",
    "f900-fa0d fa10 fa12 fa15-fa1e fa20 fa22 fa25-fa26 fa2a-fa6d fa70-fad9 fb00-fb06 fb13-fb17",
    "fb1d fb1f-fb36 fb38-fb3c fb3e fb40-fb41 fb43-fb44 fb46-fbb1 fbd3-fd3d fd50-fd8f fd92-fdc7",
    "fdf0-fdfc fe10-fe11 fe13-fe18 fe31-fe44 fe47-fe51 fe54-fe66 fe68-fe6b fe70-fe72 fe74",
    "fe76-fefc ff01-ff9f ffa1-ffbe ffc2-ffc7 ffca-ffcf ffd2-ffd7 ffda-ffdc ffe0-ffe6 ffe8-ffee",
    "10400-10427 104b0-104d3 10570-1057a 1057c-1058a 1058c-10592 10594-10595 10781-10785",
    "10787-107b0 107b2-107ba 10c80-10cb2 10d50-10d65 118a0-118bf 16e40-16e5f 16ea0-16eb8",
    "1ccd6-1ccf9 1d15e-1d164 1d1bb-1d1c0 1d400-1d454 1d456-1d49c 1d49e-1d49f 1d4a2 1d4a5-1d4a6",
    "1d4a9-1d4ac 1d4ae-1d4b9 1d4bb 1d4bd-1d4c3 1d4c5-1d505 1d507-1d50a 1d50d-1d514 1d516-1d51c",
    "1d51e-1d539 1d53b-1d53e 1d540-1d544 1d546 1d54a-1d550 1d552-1d6a5 1d6a8-1d7cb 1d7ce-1d7ff",
    "1e030-1e06d 1e900-1e921 1ee00-1ee03 1ee05-1ee1f 1ee21-1ee22 1ee24 1ee27 1ee29-1ee32",
    "1ee34-1ee37 1ee39 1ee3b 1ee42 1ee47 1ee49 1ee4b 1ee4d-1ee4f 1ee51-1ee52 1ee54 1ee57 1ee59",
    "1ee5b 1ee5d 1ee5f 1ee61-1ee62 1ee64 1ee67-1ee6a 1ee6c-1ee72 1ee74-1ee77 1ee79-1ee7c 1ee7e",
    "1ee80-1ee89 1ee8b-1ee9b 1eea1-1eea3 1eea5-1eea9 1eeab-1eebb 1f101-1f10a 1f110-1f12e",
    "1f130-1f14f 1f16a-1f16c 1f190 1f200-1f202 1f210-1f23b 1f240-1f248 1f250-1f251 1fbf0-1fbf9",
    "2f800-2fa1d"]

def ignoredRanges : List (Nat × Nat) := Text.readRanges
  ["ad 34f 115f-1160 17b4-17b5 180b-180f 200b 2060-2064 206a-206f 3164 fe00-fe0f feff ffa0",
    "1bca0-1bca3 1d173-1d17a e0100-e01ef"]

/-- Characters in place of one ASCII character: ranges that stand for that one and those that
follow it. -/
def asciiRuns : List (Char × List String) :=
  [(' ', ["a0 2000 2001 2002 2003 2004 2005 2006 2007 2008 2009 200a 202f 205f 3000"]),
    ('!', ["fe15 fe57 ff01-ff20"]), ('#', ["fe5f"]), ('$', ["fe69-fe6a"]), ('&', ["fe60"]),
    ('(', ["207d-207e 208d-208e fe35-fe36 fe59-fe5a"]), ('*', ["fe61-fe62"]),
    ('+', ["207a 208a fb29"]), (',', ["fe10 fe50"]), ('-', ["fe63"]), ('.', ["3002 ff61"]),
    ('0', ["2070 2080-2089 24ea 1ccf0-1ccf9 1d7ce-1d7d7 1d7d8-1d7e1 1d7e2-1d7eb",
      "1d7ec-1d7f5 1d7f6-1d7ff 1fbf0-1fbf9"]),
    ('1', ["b9 2460-2468"]), ('2', ["b2-b3"]), ('4', ["2074-2079"]), (':', ["fe13-fe14 fe55"]),
    (';', ["37e fe54"]), ('<', ["fe64"]), ('=', ["207c 208c fe66"]), ('>', ["fe65"]),
    ('?', ["fe16 fe56"]), ('@', ["fe6b"]), ('[', ["fe47 ff3b-ff5e"]), ('\\', ["fe68"]),
    (']', ["fe48"]), ('_', ["fe33 fe34 fe4d fe4e fe4f"]), ('\x60', ["1fef"]),
    ('a', ["aa 1d2c 1d43 2090 24b6-24cf 24d0-24e9 ff21-ff3a 1ccd6-1ccef 1d400-1d419",
      "1d41a-1d433 1d434-1d44d 1d44e-1d454 1d468-1d481 1d482-1d49b 1d49c",
      "1d4b6-1d4b9 1d4d0-1d4e9 1d4ea-1d503 1d504-1d505 1d51e-1d537 1d538-1d539",
      "1d552-1d56b 1d56c-1d585 1d586-1d59f 1d5a0-1d5b9 1d5ba-1d5d3 1d5d4-1d5ed",
      "1d5ee-1d607 1d608-1d621 1d622-1d63b 1d63c-1d655 1d656-1d66f 1d670-1d689",
      "1d68a-1d6a3 1f130-1f149"]),
    ('b', ["1d2e 1d47 212c-212d"]), ('c', ["1d9c 2102 216d-216e 217d-217e a7f2 1d49e-1d49f 1f12b"]),
    ('d', ["1d30-1d31 1d48-1d49 2145 2146-2147 1d507-1d50a 1d53b-1d53e"]),
    ('e', ["2091 212f 2130-2131"]), ('f', ["1da0 a7f3 1d4bb"]),
    ('g', ["1d33-1d3a 1d4d 210a-210b 1d4a2"]), ('h', ["2b0 2095 210c 210d 210e 1d4bd-1d4c3"]),
    ('i', ["1d62 2071 2110 2111 2139 2148-2149 2160 2170 1d456-1d467 1d540-1d544"]),
    ('j', ["2b2 2c7c 1d4a5-1d4a6 1d50d-1d514"]), ('k', ["1d4f 2096-2099 212a"]),
    ('l', ["2e1 2112 2113 216c 217c"]), ('m', ["1d50 2133 216f 217f"]),
    ('n', ["207f 2115 1d4a9-1d4ac"]), ('o', ["ba 1d3c 1d52 2092 2134 1d546"]),
    ('p', ["1d3e 1d56 209a 2119-211b 1d4c5-1d4cf"]), ('q', ["a7f4 107a5"]),
    ('r', ["2b3 1d3f 1d63 211c 211d 1f12c"]),
    ('s', ["17f 2e2 209b-209c a7f1 1d4ae-1d4b5 1d516-1d51c 1d54a-1d550"]),
    ('t', ["1d40-1d41 1d57-1d58"]), ('u', ["1d64-1d65"]), ('v', ["1d5b 2164 2174 2c7d"]),
    ('w', ["2b7 1d42"]), ('x', ["2e3 2093 2169 2179"]), ('y', ["2b8"]), ('z', ["1dbb 2124 2128"]),
    ('\x7b', ["fe37 fe5b"]), ('\x7d', ["fe38 fe5c"])]

def asciiTexts : List (String × String) :=
  [(" \u0308", "a8"), (" \u0304", "af ffe3"), (" \u0301", "b4 384 1ffd"), (" \u0327", "b8"),
    ("1\u20444", "bc"), ("1\u20442", "bd"), ("3\u20444", "be"), ("i\u0307", "130"),
    ("ij", "132 133"), ("l\u00b7", "13f 140"), ("\u02bcn", "149"), ("d\u017e", "1c4 1c5 1c6"),
    ("lj", "1c7 1c8 1c9"), ("nj", "1ca 1cb 1cc"), ("dz", "1f1 1f2 1f3"), (" \u0306", "2d8"),
    (" \u0307", "2d9"), (" \u030a", "2da"), (" \u0328", "2db"), (" \u0303", "2dc"),
    (" \u030b", "2dd"), (" \u03b9", "37a"), (" \u0308\u0301", "385 1fee"), ("a\u02be", "1e9a"),
    (" \u0313", "1fbd 1fbf"), (" \u0342", "1fc0"), (" \u0308\u0342", "1fc1"),
    (" \u0313\u0300", "1fcd"), (" \u0313\u0301", "1fce"), (" \u0313\u0342", "1fcf"),
    (" \u0314\u0300", "1fdd"), (" \u0314\u0301", "1fde"), (" \u0314\u0342", "1fdf"),
    (" \u0308\u0300", "1fed"), (" \u0314", "1ffe"), (" \u0333", "2017"), ("!!", "203c"),
    (" \u0305", "203e fe49 fe4a fe4b fe4c"), ("??", "2047"), ("?!", "2048"), ("!?", "2049"),
    ("rs", "20a8"), ("a/c", "2100"), ("a/s", "2101"), ("\u00b0c", "2103"), ("c/o", "2105"),
    ("c/u", "2106"), ("\u00b0f", "2109"), ("no", "2116"), ("sm", "2120"), ("tel", "2121"),
    ("tm", "2122"), ("fax", "213b"), ("1\u20447", "2150"), ("1\u20449", "2151"),
    ("1\u204410", "2152"), ("1\u20443", "2153"), ("2\u20443", "2154"), ("1\u20445", "2155"),
    ("2\u20445", "2156"), ("3\u20445", "2157"), ("4\u20445", "2158"), ("1\u20446", "2159"),
    ("5\u20446", "215a"), ("1\u20448", "215b"), ("3\u20448", "215c"), ("5\u20448", "215d"),
    ("7\u20448", "215e"), ("1\u2044", "215f"), ("ii", "2161 2171"), ("iii", "2162 2172"),
    ("iv", "2163 2173"), ("vi", "2165 2175"), ("vii", "2166 2176"), ("viii", "2167 2177"),
    ("ix", "2168 2178"), ("xi", "216a 217a"), ("xii", "216b 217b"), ("0\u20443", "2189"),
    ("10", "2469"), ("11", "246a"), ("12", "246b"), ("13", "246c"), ("14", "246d"), ("15", "246e"),
    ("16", "246f"), ("17", "2470"), ("18", "2471"), ("19", "2472"), ("20", "2473"), ("(1)", "2474"),
    ("(2)", "2475"), ("(3)", "2476"), ("(4)", "2477"), ("(5)", "2478"), ("(6)", "2479"),
    ("(7)", "247a"), ("(8)", "247b"), ("(9)", "247c"), ("(10)", "247d"), ("(11)", "247e"),
    ("(12)", "247f"), ("(13)", "2480"), ("(14)", "2481"), ("(15)", "2482"), ("(16)", "2483"),
    ("(17)", "2484"), ("(18)", "2485"), ("(19)", "2486"), ("(20)", "2487"), ("(a)", "249c 1f110"),
    ("(b)", "249d 1f111"), ("(c)", "249e 1f112"), ("(d)", "249f 1f113"), ("(e)", "24a0 1f114"),
    ("(f)", "24a1 1f115"), ("(g)", "24a2 1f116"), ("(h)", "24a3 1f117"), ("(i)", "24a4 1f118"),
    ("(j)", "24a5 1f119"), ("(k)", "24a6 1f11a"), ("(l)", "24a7 1f11b"), ("(m)", "24a8 1f11c"),
    ("(n)", "24a9 1f11d"), ("(o)", "24aa 1f11e"), ("(p)", "24ab 1f11f"), ("(q)", "24ac 1f120"),
    ("(r)", "24ad 1f121"), ("(s)", "24ae 1f122"), ("(t)", "24af 1f123"), ("(u)", "24b0 1f124"),
    ("(v)", "24b1 1f125"), ("(w)", "24b2 1f126"), ("(x)", "24b3 1f127"), ("(y)", "24b4 1f128"),
    ("(z)", "24b5 1f129"), ("::=", "2a74"), ("==", "2a75"), ("===", "2a76"), (" \u3099", "309b"),
    (" \u309a", "309c"), ("(\u1100)", "3200"), ("(\u1102)", "3201"), ("(\u1103)", "3202"),
    ("(\u1105)", "3203"), ("(\u1106)", "3204"), ("(\u1107)", "3205"), ("(\u1109)", "3206"),
    ("(\u110b)", "3207"), ("(\u110c)", "3208"), ("(\u110e)", "3209"), ("(\u110f)", "320a"),
    ("(\u1110)", "320b"), ("(\u1111)", "320c"), ("(\u1112)", "320d"), ("(\uac00)", "320e"),
    ("(\ub098)", "320f"), ("(\ub2e4)", "3210"), ("(\ub77c)", "3211"), ("(\ub9c8)", "3212"),
    ("(\ubc14)", "3213"), ("(\uc0ac)", "3214"), ("(\uc544)", "3215"), ("(\uc790)", "3216"),
    ("(\ucc28)", "3217"), ("(\uce74)", "3218"), ("(\ud0c0)", "3219"), ("(\ud30c)", "321a"),
    ("(\ud558)", "321b"), ("(\uc8fc)", "321c"), ("(\uc624\uc804)", "321d"),
    ("(\uc624\ud6c4)", "321e"), ("(\u4e00)", "3220"), ("(\u4e8c)", "3221"), ("(\u4e09)", "3222"),
    ("(\u56db)", "3223"), ("(\u4e94)", "3224"), ("(\u516d)", "3225"), ("(\u4e03)", "3226"),
    ("(\u516b)", "3227"), ("(\u4e5d)", "3228"), ("(\u5341)", "3229"), ("(\u6708)", "322a"),
    ("(\u706b)", "322b"), ("(\u6c34)", "322c"), ("(\u6728)", "322d"), ("(\u91d1)", "322e"),
    ("(\u571f)", "322f"), ("(\u65e5)", "3230"), ("(\u682a)", "3231"), ("(\u6709)", "3232"),
    ("(\u793e)", "3233"), ("(\u540d)", "3234"), ("(\u7279)", "3235"), ("(\u8ca1)", "3236"),
    ("(\u795d)", "3237"), ("(\u52b4)", "3238"), ("(\u4ee3)", "3239"), ("(\u547c)", "323a"),
    ("(\u5b66)", "323b"), ("(\u76e3)", "323c"), ("(\u4f01)", "323d"), ("(\u8cc7)", "323e"),
    ("(\u5354)", "323f"), ("(\u796d)", "3240"), ("(\u4f11)", "3241"), ("(\u81ea)", "3242"),
    ("(\u81f3)", "3243"), ("pte", "3250"), ("21", "3251"), ("22", "3252"), ("23", "3253"),
    ("24", "3254"), ("25", "3255"), ("26", "3256"), ("27", "3257"), ("28", "3258"), ("29", "3259"),
    ("30", "325a"), ("31", "325b"), ("32", "325c"), ("33", "325d"), ("34", "325e"), ("35", "325f"),
    ("36", "32b1"), ("37", "32b2"), ("38", "32b3"), ("39", "32b4"), ("40", "32b5"), ("41", "32b6"),
    ("42", "32b7"), ("43", "32b8"), ("44", "32b9"), ("45", "32ba"), ("46", "32bb"), ("47", "32bc"),
    ("48", "32bd"), ("49", "32be"), ("50", "32bf"), ("1\u6708", "32c0"), ("2\u6708", "32c1"),
    ("3\u6708", "32c2"), ("4\u6708", "32c3"), ("5\u6708", "32c4"), ("6\u6708", "32c5"),
    ("7\u6708", "32c6"), ("8\u6708", "32c7"), ("9\u6708", "32c8"), ("10\u6708", "32c9"),
    ("11\u6708", "32ca"), ("12\u6708", "32cb"), ("hg", "32cc"), ("erg", "32cd"), ("ev", "32ce"),
    ("ltd", "32cf"), ("0\u70b9", "3358"), ("1\u70b9", "3359"), ("2\u70b9", "335a"),
    ("3\u70b9", "335b"), ("4\u70b9", "335c"), ("5\u70b9", "335d"), ("6\u70b9", "335e"),
    ("7\u70b9", "335f"), ("8\u70b9", "3360"), ("9\u70b9", "3361"), ("10\u70b9", "3362"),
    ("11\u70b9", "3363"), ("12\u70b9", "3364"), ("13\u70b9", "3365"), ("14\u70b9", "3366"),
    ("15\u70b9", "3367"), ("16\u70b9", "3368"), ("17\u70b9", "3369"), ("18\u70b9", "336a"),
    ("19\u70b9", "336b"), ("20\u70b9", "336c"), ("21\u70b9", "336d"), ("22\u70b9", "336e"),
    ("23\u70b9", "336f"), ("24\u70b9", "3370"), ("hpa", "3371"), ("da", "3372"), ("au", "3373"),
    ("bar", "3374"), ("ov", "3375"), ("pc", "3376"), ("dm", "3377"), ("dm2", "3378"),
    ("dm3", "3379"), ("iu", "337a"), ("pa", "3380 33a9"), ("na", "3381"), ("\u03bca", "3382"),
    ("ma", "3383"), ("ka", "3384"), ("kb", "3385"), ("mb", "3386 33d4"), ("gb", "3387"),
    ("cal", "3388"), ("kcal", "3389"), ("pf", "338a"), ("nf", "338b"), ("\u03bcf", "338c"),
    ("\u03bcg", "338d"), ("mg", "338e"), ("kg", "338f"), ("hz", "3390"), ("khz", "3391"),
    ("mhz", "3392"), ("ghz", "3393"), ("thz", "3394"), ("\u03bcl", "3395"), ("ml", "3396"),
    ("dl", "3397"), ("kl", "3398"), ("fm", "3399"), ("nm", "339a"), ("\u03bcm", "339b"),
    ("mm", "339c"), ("cm", "339d"), ("km", "339e 33ce"), ("mm2", "339f"), ("cm2", "33a0"),
    ("m2", "33a1"), ("km2", "33a2"), ("mm3", "33a3"), ("cm3", "33a4"), ("m3", "33a5"),
    ("km3", "33a6"), ("m\u2215s", "33a7"), ("m\u2215s2", "33a8"), ("kpa", "33aa"), ("mpa", "33ab"),
    ("gpa", "33ac"), ("rad", "33ad"), ("rad\u2215s", "33ae"), ("rad\u2215s2", "33af"),
    ("ps", "33b0"), ("ns", "33b1"), ("\u03bcs", "33b2"), ("ms", "33b3"), ("pv", "33b4"),
    ("nv", "33b5"), ("\u03bcv", "33b6"), ("mv", "33b7 33b9 1f14b"), ("kv", "33b8"), ("pw", "33ba"),
    ("nw", "33bb"), ("\u03bcw", "33bc"), ("mw", "33bd 33bf"), ("kw", "33be"), ("k\u03c9", "33c0"),
    ("m\u03c9", "33c1"), ("bq", "33c3"), ("cc", "33c4"), ("cd", "33c5 1f12d"),
    ("c\u2215kg", "33c6"), ("db", "33c8"), ("gy", "33c9"), ("ha", "33ca"), ("hp", "33cb"),
    ("in", "33cc"), ("kk", "33cd"), ("kt", "33cf"), ("lm", "33d0"), ("ln", "33d1"), ("log", "33d2"),
    ("lx", "33d3"), ("mil", "33d5"), ("mol", "33d6"), ("ph", "33d7"), ("ppm", "33d9"),
    ("pr", "33da"), ("sr", "33db"), ("sv", "33dc"), ("wb", "33dd"), ("v\u2215m", "33de"),
    ("a\u2215m", "33df"), ("1\u65e5", "33e0"), ("2\u65e5", "33e1"), ("3\u65e5", "33e2"),
    ("4\u65e5", "33e3"), ("5\u65e5", "33e4"), ("6\u65e5", "33e5"), ("7\u65e5", "33e6"),
    ("8\u65e5", "33e7"), ("9\u65e5", "33e8"), ("10\u65e5", "33e9"), ("11\u65e5", "33ea"),
    ("12\u65e5", "33eb"), ("13\u65e5", "33ec"), ("14\u65e5", "33ed"), ("15\u65e5", "33ee"),
    ("16\u65e5", "33ef"), ("17\u65e5", "33f0"), ("18\u65e5", "33f1"), ("19\u65e5", "33f2"),
    ("20\u65e5", "33f3"), ("21\u65e5", "33f4"), ("22\u65e5", "33f5"), ("23\u65e5", "33f6"),
    ("24\u65e5", "33f7"), ("25\u65e5", "33f8"), ("26\u65e5", "33f9"), ("27\u65e5", "33fa"),
    ("28\u65e5", "33fb"), ("29\u65e5", "33fc"), ("30\u65e5", "33fd"), ("31\u65e5", "33fe"),
    ("gal", "33ff"), ("ff", "fb00"), ("fi", "fb01"), ("fl", "fb02"), ("ffi", "fb03"),
    ("ffl", "fb04"), ("st", "fb05 fb06"), (" \u064c\u0651", "fc5e"), (" \u064d\u0651", "fc5f"),
    (" \u064e\u0651", "fc60"), (" \u064f\u0651", "fc61"), (" \u0650\u0651", "fc62"),
    (" \u0651\u0670", "fc63"),
    ("\u0635\u0644\u0649 \u0627\u0644\u0644\u0647 \u0639\u0644\u064a\u0647 \u0648\u0633\u0644\u0645", "fdfa"),
    ("\u062c\u0644 \u062c\u0644\u0627\u0644\u0647", "fdfb"), (" \u064b", "fe70"),
    (" \u064c", "fe72"), (" \u064d", "fe74"), (" \u064e", "fe76"), (" \u064f", "fe78"),
    (" \u0650", "fe7a"), (" \u0651", "fe7c"), (" \u0652", "fe7e"), ("0,", "1f101"), ("1,", "1f102"),
    ("2,", "1f103"), ("3,", "1f104"), ("4,", "1f105"), ("5,", "1f106"), ("6,", "1f107"),
    ("7,", "1f108"), ("8,", "1f109"), ("9,", "1f10a"), ("\u3014s\u3015", "1f12a"), ("wz", "1f12e"),
    ("hv", "1f14a"), ("sd", "1f14c"), ("ss", "1f14d"), ("ppv", "1f14e"), ("wc", "1f14f"),
    ("mc", "1f16a"), ("md", "1f16b"), ("mr", "1f16c"), ("dj", "1f190")]

def runs : List (Char × List (Nat × Nat)) :=
  asciiRuns.map fun r => (r.1, Text.readRanges r.2)

def texts : List (Text × List (Nat × Nat)) :=
  asciiTexts.map fun r => (r.1.toList, Text.readRanges [r.2])

/-! ## 2. Forms -/

def isAscii (c : Char) : Bool :=
  c.toNat < 0x80

def isIgnored (c : Char) : Bool :=
  Text.inRanges ignoredRanges c.toNat

def isKept (c : Char) : Bool :=
  isAscii c || (Text.inRanges allowedRanges c.toNat && !Text.inRanges replacedRanges c.toNat)

def inRun (first : Char) (n : Nat) : List (Nat × Nat) → Option Char
  | [] => none
  | (a, b) :: rs =>
    if a ≤ n && n ≤ b then some (Char.ofNat (first.toNat + (n - a))) else inRun first n rs

/-- What stands in a domain for a replaced character: a text with ASCII characters, or the
character itself for all that it matters. -/
def replacement (c : Char) : Text :=
  match runs.findSome? fun r => inRun r.1 c.toNat r.2 with
  | some d => [d]
  | none =>
    match texts.find? fun r => Text.inRanges r.2 c.toNat with
    | some r => r.1
    | none => [c]

def form? (c : Char) : Option Text :=
  if isAscii c then some [c.toLower]
  else if isIgnored c then some []
  else if !Text.inRanges allowedRanges c.toNat then none
  else if Text.inRanges replacedRanges c.toNat then some (replacement c)
  else some [c]

def form : Text → Option Text
  | [] => some []
  | c :: r =>
    match form? c, form r with
    | some s, some t => some (s ++ t)
    | _, _ => none

end SecretWeave.Url.Domain
