import SecretWeave.Url.Domain.Direction

/-!
# Marks and joiners in domains

A label does not start with a mark. The joiner and the non-joiner may stand where they can be seen:
behind a sign that silences a vowel, and the non-joiner also between letters that would be joined.

Main fact: labels without joiners keep to this (`joinersHold_of_none`).
-/

namespace SecretWeave.Url.Domain

/-! ## 1. Tables -/

def spacingMarkRanges : List (Nat × Nat) := Text.readRanges
  ["903 93b 93e-940 949-94c 94e-94f 982-983 9be-9c0 9c7-9c8 9cb-9cc 9d7 a03 a3e-a40 a83 abe-ac0",
    "ac9 acb-acc b02-b03 b3e b40 b47-b48 b4b-b4c b57 bbe-bbf bc1-bc2 bc6-bc8 bca-bcc bd7 c01-c03",
    "c41-c44 c82-c83 cbe-cc4 cc6-cc8 cca-ccb cd5-cd6 cf3 d02-d03 d3e-d40 d46-d48 d4a-d4c d57",
    "d82-d83 dcf-dd1 dd8-ddf df2-df3 e33 eb3 f3e-f3f f7f 102b-102c 1031 1038 103b-103c 1056-1057",
    "1062-1064 1067-106d 1083-1084 1087-108c 108f 109a-109c 1715 1734 17b6 17be-17c5 17c7-17c8",
    "1923-1926 1929-192b 1930-1931 1933-1938 1a19-1a1a 1a55 1a57 1a61 1a63-1a64 1a6d-1a72 1b04",
    "1b35 1b3b 1b3d-1b41 1b43-1b44 1b82 1ba1 1ba6-1ba7 1baa 1be7 1bea-1bec 1bee 1bf2-1bf3",
    "1c24-1c2b 1c34-1c35 1ce1 1cf7 302e-302f a823-a824 a827 a880-a881 a8b4-a8c3 a952-a953 a983",
    "a9b4-a9b5 a9ba-a9bb a9be-a9c0 aa2f-aa30 aa33-aa34 aa4d aa7b aa7d aaeb aaee-aaef aaf5",
    "abe3-abe4 abe6-abe7 abe9-abea abec 11000 11002 11082 110b0-110b2 110b7-110b8 1112c",
    "11145-11146 11182 111b3-111b5 111bf-111c0 111ce 1122c-1122e 11232-11233 11235 112e0-112e2",
    "11302-11303 1133e-1133f 11341-11344 11347-11348 1134b-1134d 11357 11362-11363 113b8-113ba",
    "113c2 113c5 113c7-113ca 113cc-113cd 113cf 11435-11437 11440-11441 11445 114b0-114b2 114b9",
    "114bb-114be 114c1 115af-115b1 115b8-115bb 115be 11630-11632 1163b-1163c 1163e 116ac",
    "116ae-116af 116b6 11720-11721 11726 1182c-1182e 11838 11930-11935 11937-11938 1193d 11940",
    "11942 119d1-119d3 119dc-119df 119e4 11a07-11a08 11a39 11a57-11a58 11a97 11b61 11b65 11b67",
    "11c2f 11c3e-11c3f 11ca9 11cb1 11cb4 11d8a-11d8e 11d93-11d94 11d96 11ef5-11ef6 11f03",
    "11f34-11f35 11f3e-11f3f 11f41 1612a-1612c 16f51-16f87 16ff0-16ff1 1d165-1d166 1d16d-1d172"]

def viramaRanges : List (Nat × Nat) := Text.readRanges
  ["94d 9cd a4d acd b4d bcd c4d ccd d3b-d3c d4d dca e3a eba f84 1039-103a 1714-1715 1734 17d2",
    "1a60 1b44 1baa-1bab 1bf2-1bf3 2d7f a806 a82c a8c4 a953 a9c0 aaf6 abed 10a3f 11046 11070",
    "1107f 110b9 11133-11134 111c0 11235 112ea 1134d 113ce-113d0 11442 114c2 115bf 1163f 116b6",
    "1172b 11839 1193d-1193e 119e0 11a34 11a47 11a99 11c3f 11d44-11d45 11d97 11f41-11f42 1612f"]

def dualRanges : List (Nat × Nat) := Text.readRanges
  ["620 626 628 62a-62e 633-63f 641-647 649-64a 66e-66f 679-687 69a-6bf 6c1-6c2 6cc 6ce 6d0-6d1",
    "6fa-6fc 6ff 712-714 71a-71d 71f-727 729 72b 72d-72e 74e-758 75c-76a 76d-770 772 775-777",
    "77a-77f 7ca-7ea 841-845 848 84a-853 855 860 862-865 868 886 889-88d 88f 8a0-8a9 8af-8b0",
    "8b3-8b8 8ba-8c8 1807 1820-1878 1887-18a8 18aa a840-a871 fb52-fb81 fb8e-fba3 fba6-fbad",
    "fbd3-fbd6 fbe4-fbe9 fbf6-fc36 fc38-fc5a fc5d fc66-fc69 fc6c-fc6f fc72-fc75 fc78-fc7f",
    "fc81-fc87 fc89 fc8c-fc90 fc93-fcf1 fcf5-fd0c fd11-fd28 fd2d-fd3b fd50-fd8f fd92-fdc7 fdf2",
    "fdf5-fdfc fe89-fe8c fe8f-fe92 fe95-fea8 feb1-feec feef-fef4 10ac0-10ac4 10ad3-10ad6",
    "10ad8-10adc 10ade-10ae0 10aeb-10aee 10b80 10b82 10b86-10b88 10b8a-10b8b 10b8d 10b90",
    "10bad-10bae 10d01-10d21 10d23 10ec3-10ec4 10ec6-10ec7 10f30-10f32 10f34-10f44 10f51-10f53",
    "10f70-10f73 10f76-10f81 10fb0 10fb2-10fb3 10fb8 10fbb-10fbc 10fbe-10fbf 10fc1 10fc4 10fca",
    "1e900-1e943 1ee01-1ee02 1ee07-1ee12 1ee14-1ee17 1ee19-1ee1f 1ee21-1ee22 1ee24 1ee27",
    "1ee29-1ee32 1ee34-1ee37 1ee39 1ee3b 1ee42 1ee47 1ee49 1ee4b 1ee4d-1ee4f 1ee51-1ee52 1ee54",
    "1ee57 1ee59 1ee5b 1ee5d 1ee5f 1ee61-1ee62 1ee64 1ee67-1ee6a 1ee6c-1ee72 1ee74-1ee77",
    "1ee79-1ee7c 1ee7e 1ee81-1ee82 1ee84 1ee87-1ee89 1ee8b-1ee92 1ee94-1ee97 1ee99-1ee9b",
    "1eea1-1eea2 1eea7-1eea9 1eeab-1eeb2 1eeb4-1eeb7 1eeb9-1eebb"]

def backRanges : List (Nat × Nat) := Text.readRanges
  ["622-625 627 629 62f-632 648 671-673 688-699 6c0 6c3-6cb 6cd 6cf 6d2-6d3 6d5 6ee-6ef 710",
    "715-719 71e 728 72a 72c 72f 74d 759-75b 76b-76c 771 773-774 778-779 840 846-847 849 854",
    "856-858 867 869-86a 870-882 88e 8aa-8ac 8ae 8b1-8b2 8b9 fb50-fb51 fb82-fb8d fba4-fba5",
    "fbae-fbb1 fbd7-fbdc fbde-fbe3 fbea-fbf5 fc37 fc5b-fc5c fc64-fc65 fc6a-fc6b fc70-fc71",
    "fc76-fc77 fc80 fc88 fc8a-fc8b fc91-fc92 fd0d-fd10 fd29-fd2c fd3c-fd3d fdf0-fdf1 fdf3-fdf4",
    "fe81-fe88 fe8d-fe8e fe93-fe94 fea9-feb0 feed-feee fef5-fefc 10ac5 10ac7 10ac9-10aca",
    "10ace-10ad2 10add 10ae1 10ae4 10aef 10b81 10b83-10b85 10b89 10b8c 10b8e-10b8f 10b91",
    "10ba9-10bac 10d22 10ec2 10f33 10f54 10f74-10f75 10fb4-10fb6 10fb9-10fba 10fbd 10fc2-10fc3",
    "10fc9 1ee00 1ee03 1ee05-1ee06 1ee13 1ee18 1ee80 1ee83 1ee85-1ee86 1ee93 1ee98 1eea3",
    "1eea5-1eea6 1eeb3 1eeb8"]

def forthRanges : List (Nat × Nat) := Text.readRanges
  ["a872 10acd 10ad7 10d00 10fcb"]

def passedRanges : List (Nat × Nat) := Text.readRanges
  ["cbf cc6 11a07-11a08 11c3f 1e94b"]

/-! ## 2. Rules -/

def isMark (c : Char) : Bool :=
  Text.inRanges Direction.markRanges c.toNat || Text.inRanges spacingMarkRanges c.toNat

def isVirama (c : Char) : Bool :=
  Text.inRanges viramaRanges c.toNat

def isPassed (c : Char) : Bool :=
  Text.inRanges Direction.markRanges c.toNat || Text.inRanges passedRanges c.toNat

def joinsForth (c : Char) : Bool :=
  Text.inRanges dualRanges c.toNat || Text.inRanges forthRanges c.toNat

def joinsBack (c : Char) : Bool :=
  Text.inRanges dualRanges c.toNat || Text.inRanges backRanges c.toNat

def nonJoiner : Char := '\u200c'

def joiner : Char := '\u200d'

def leadsTo (p : Char → Bool) (s : Text) : Bool :=
  (s.dropWhile isPassed).head?.any p

/-- Whether all joiners stand where they can be seen; `before` is what stands before, nearest
first. -/
def joinersHold : (before s : Text) → Bool
  | _, [] => true
  | before, c :: r =>
    let holds :=
      if c = joiner then before.head?.any isVirama
      else if c = nonJoiner then
        before.head?.any isVirama || (leadsTo joinsForth before && leadsTo joinsBack r)
      else true
    holds && joinersHold (c :: before) r

theorem joinersHold_of_none {before s : Text} (h : ∀ c ∈ s, c ≠ joiner ∧ c ≠ nonJoiner) :
    joinersHold before s = true := by
  induction s generalizing before with
  | nil => rfl
  | cons c r ih =>
    have hc := h c (List.mem_cons_self ..)
    simp [joinersHold, hc.1, hc.2, ih fun d hd => h d (List.mem_cons_of_mem _ hd)]

end SecretWeave.Url.Domain
