import StyleRules.Text.Ranges

/-!
# Case mappings beyond ASCII

A run `lo-hi/step` followed by a signed shift maps every `step`-th code point from `lo` to `hi` by the
shift.  An expansion maps one code point to several.  The last two tables hold what the final form of
the Greek sigma depends on: the characters that have case, and those that are passed over.
-/

namespace StyleRules.Text

/-- Single characters with a different upper case. -/
def upperRuns : List CaseRun := CaseRun.readAll
  "b5-b5/1+743 e0-f6/1-32 f8-fe/1-32 ff-ff/1+121 101-12f/2-1 131-131/1-232 133-137/2-1
   13a-148/2-1 14b-177/2-1 17a-17e/2-1 17f-17f/1-300 180-180/1+195 183-185/2-1
   188-188/1-1 18c-18c/1-1 192-192/1-1 195-195/1+97 199-199/1-1 19a-19a/1+163
   19e-19e/1+130 1a1-1a5/2-1 1a8-1a8/1-1 1ad-1ad/1-1 1b0-1b0/1-1 1b4-1b6/2-1
   1b9-1b9/1-1 1bd-1bd/1-1 1bf-1bf/1+56 1c5-1c5/1-1 1c6-1c6/1-2 1c8-1c8/1-1 1c9-1c9/1-2
   1cb-1cb/1-1 1cc-1cc/1-2 1ce-1dc/2-1 1dd-1dd/1-79 1df-1ef/2-1 1f2-1f2/1-1 1f3-1f3/1-2
   1f5-1f5/1-1 1f9-21f/2-1 223-233/2-1 23c-23c/1-1 23f-240/1+10815 242-242/1-1
   247-24f/2-1 250-250/1+10783 251-251/1+10780 252-252/1+10782 253-253/1-210
   254-254/1-206 256-257/1-205 259-259/1-202 25b-25b/1-203 25c-25c/1+42319
   260-260/1-205 261-261/1+42315 263-263/1-207 265-265/1+42280 266-266/1+42308
   268-268/1-209 269-269/1-211 26a-26a/1+42308 26b-26b/1+10743 26c-26c/1+42305
   26f-26f/1-211 271-271/1+10749 272-272/1-213 275-275/1-214 27d-27d/1+10727
   280-280/1-218 282-282/1+42307 283-283/1-218 287-287/1+42282 288-288/1-218
   289-289/1-69 28a-28b/1-217 28c-28c/1-71 292-292/1-219 29d-29d/1+42261
   29e-29e/1+42258 345-345/1+84 371-373/2-1 377-377/1-1 37b-37d/1+130 3ac-3ac/1-38
   3ad-3af/1-37 3b1-3c1/1-32 3c2-3c2/1-31 3c3-3cb/1-32 3cc-3cc/1-64 3cd-3ce/1-63
   3d0-3d0/1-62 3d1-3d1/1-57 3d5-3d5/1-47 3d6-3d6/1-54 3d7-3d7/1-8 3d9-3ef/2-1
   3f0-3f0/1-86 3f1-3f1/1-80 3f2-3f2/1+7 3f3-3f3/1-116 3f5-3f5/1-96 3f8-3f8/1-1
   3fb-3fb/1-1 430-44f/1-32 450-45f/1-80 461-481/2-1 48b-4bf/2-1 4c2-4ce/2-1
   4cf-4cf/1-15 4d1-52f/2-1 561-586/1-48 10d0-10fa/1+3008 10fd-10ff/1+3008
   13f8-13fd/1-8 1c80-1c80/1-6254 1c81-1c81/1-6253 1c82-1c82/1-6244 1c83-1c84/1-6242
   1c85-1c85/1-6243 1c86-1c86/1-6236 1c87-1c87/1-6181 1c88-1c88/1+35266
   1d79-1d79/1+35332 1d7d-1d7d/1+3814 1d8e-1d8e/1+35384 1e01-1e95/2-1 1e9b-1e9b/1-59
   1ea1-1eff/2-1 1f00-1f07/1+8 1f10-1f15/1+8 1f20-1f27/1+8 1f30-1f37/1+8 1f40-1f45/1+8
   1f51-1f57/2+8 1f60-1f67/1+8 1f70-1f71/1+74 1f72-1f75/1+86 1f76-1f77/1+100
   1f78-1f79/1+128 1f7a-1f7b/1+112 1f7c-1f7d/1+126 1fb0-1fb1/1+8 1fbe-1fbe/1-7205
   1fd0-1fd1/1+8 1fe0-1fe1/1+8 1fe5-1fe5/1+7 214e-214e/1-28 2170-217f/1-16
   2184-2184/1-1 24d0-24e9/1-26 2c30-2c5f/1-48 2c61-2c61/1-1 2c65-2c65/1-10795
   2c66-2c66/1-10792 2c68-2c6c/2-1 2c73-2c73/1-1 2c76-2c76/1-1 2c81-2ce3/2-1
   2cec-2cee/2-1 2cf3-2cf3/1-1 2d00-2d25/1-7264 2d27-2d27/1-7264 2d2d-2d2d/1-7264
   a641-a66d/2-1 a681-a69b/2-1 a723-a72f/2-1 a733-a76f/2-1 a77a-a77c/2-1 a77f-a787/2-1
   a78c-a78c/1-1 a791-a793/2-1 a794-a794/1+48 a797-a7a9/2-1 a7b5-a7c3/2-1 a7c8-a7ca/2-1
   a7d1-a7d1/1-1 a7d7-a7d9/2-1 a7f6-a7f6/1-1 ab53-ab53/1-928 ab70-abbf/1-38864
   ff41-ff5a/1-32 10428-1044f/1-40 104d8-104fb/1-40 10597-105a1/1-39 105a3-105b1/1-39
   105b3-105b9/1-39 105bb-105bc/1-39 10cc0-10cf2/1-64 118c0-118df/1-32 16e60-16e7f/1-32
   1e922-1e943/1-34"

/-- Characters whose upper case is several characters. -/
def upperExpansions : List (Nat × List Nat) := CaseRun.readExpansions
  "df=53+53 149=2bc+4e 1f0=4a+30c 390=399+308+301 3b0=3a5+308+301 587=535+552
   1e96=48+331 1e97=54+308 1e98=57+30a 1e99=59+30a 1e9a=41+2be 1f50=3a5+313
   1f52=3a5+313+300 1f54=3a5+313+301 1f56=3a5+313+342 1f80=1f08+399 1f81=1f09+399
   1f82=1f0a+399 1f83=1f0b+399 1f84=1f0c+399 1f85=1f0d+399 1f86=1f0e+399 1f87=1f0f+399
   1f88=1f08+399 1f89=1f09+399 1f8a=1f0a+399 1f8b=1f0b+399 1f8c=1f0c+399 1f8d=1f0d+399
   1f8e=1f0e+399 1f8f=1f0f+399 1f90=1f28+399 1f91=1f29+399 1f92=1f2a+399 1f93=1f2b+399
   1f94=1f2c+399 1f95=1f2d+399 1f96=1f2e+399 1f97=1f2f+399 1f98=1f28+399 1f99=1f29+399
   1f9a=1f2a+399 1f9b=1f2b+399 1f9c=1f2c+399 1f9d=1f2d+399 1f9e=1f2e+399 1f9f=1f2f+399
   1fa0=1f68+399 1fa1=1f69+399 1fa2=1f6a+399 1fa3=1f6b+399 1fa4=1f6c+399 1fa5=1f6d+399
   1fa6=1f6e+399 1fa7=1f6f+399 1fa8=1f68+399 1fa9=1f69+399 1faa=1f6a+399 1fab=1f6b+399
   1fac=1f6c+399 1fad=1f6d+399 1fae=1f6e+399 1faf=1f6f+399 1fb2=1fba+399 1fb3=391+399
   1fb4=386+399 1fb6=391+342 1fb7=391+342+399 1fbc=391+399 1fc2=1fca+399 1fc3=397+399
   1fc4=389+399 1fc6=397+342 1fc7=397+342+399 1fcc=397+399 1fd2=399+308+300
   1fd3=399+308+301 1fd6=399+342 1fd7=399+308+342 1fe2=3a5+308+300 1fe3=3a5+308+301
   1fe4=3a1+313 1fe6=3a5+342 1fe7=3a5+308+342 1ff2=1ffa+399 1ff3=3a9+399 1ff4=38f+399
   1ff6=3a9+342 1ff7=3a9+342+399 1ffc=3a9+399 fb00=46+46 fb01=46+49 fb02=46+4c
   fb03=46+46+49 fb04=46+46+4c fb05=53+54 fb06=53+54 fb13=544+546 fb14=544+535
   fb15=544+53b fb16=54e+546 fb17=544+53d"

/-- Single characters with a different lower case. -/
def lowerRuns : List CaseRun := CaseRun.readAll
  "c0-d6/1+32 d8-de/1+32 100-12e/2+1 132-136/2+1 139-147/2+1 14a-176/2+1 178-178/1-121
   179-17d/2+1 181-181/1+210 182-184/2+1 186-186/1+206 187-187/1+1 189-18a/1+205
   18b-18b/1+1 18e-18e/1+79 18f-18f/1+202 190-190/1+203 191-191/1+1 193-193/1+205
   194-194/1+207 196-196/1+211 197-197/1+209 198-198/1+1 19c-19c/1+211 19d-19d/1+213
   19f-19f/1+214 1a0-1a4/2+1 1a6-1a6/1+218 1a7-1a7/1+1 1a9-1a9/1+218 1ac-1ac/1+1
   1ae-1ae/1+218 1af-1af/1+1 1b1-1b2/1+217 1b3-1b5/2+1 1b7-1b7/1+219 1b8-1b8/1+1
   1bc-1bc/1+1 1c4-1c4/1+2 1c5-1c5/1+1 1c7-1c7/1+2 1c8-1c8/1+1 1ca-1ca/1+2 1cb-1db/2+1
   1de-1ee/2+1 1f1-1f1/1+2 1f2-1f4/2+1 1f6-1f6/1-97 1f7-1f7/1-56 1f8-21e/2+1
   220-220/1-130 222-232/2+1 23a-23a/1+10795 23b-23b/1+1 23d-23d/1-163 23e-23e/1+10792
   241-241/1+1 243-243/1-195 244-244/1+69 245-245/1+71 246-24e/2+1 370-372/2+1
   376-376/1+1 37f-37f/1+116 386-386/1+38 388-38a/1+37 38c-38c/1+64 38e-38f/1+63
   391-3a1/1+32 3a3-3ab/1+32 3cf-3cf/1+8 3d8-3ee/2+1 3f4-3f4/1-60 3f7-3f7/1+1
   3f9-3f9/1-7 3fa-3fa/1+1 3fd-3ff/1-130 400-40f/1+80 410-42f/1+32 460-480/2+1
   48a-4be/2+1 4c0-4c0/1+15 4c1-4cd/2+1 4d0-52e/2+1 531-556/1+48 10a0-10c5/1+7264
   10c7-10c7/1+7264 10cd-10cd/1+7264 13a0-13ef/1+38864 13f0-13f5/1+8 1c90-1cba/1-3008
   1cbd-1cbf/1-3008 1e00-1e94/2+1 1e9e-1e9e/1-7615 1ea0-1efe/2+1 1f08-1f0f/1-8
   1f18-1f1d/1-8 1f28-1f2f/1-8 1f38-1f3f/1-8 1f48-1f4d/1-8 1f59-1f5f/2-8 1f68-1f6f/1-8
   1f88-1f8f/1-8 1f98-1f9f/1-8 1fa8-1faf/1-8 1fb8-1fb9/1-8 1fba-1fbb/1-74 1fbc-1fbc/1-9
   1fc8-1fcb/1-86 1fcc-1fcc/1-9 1fd8-1fd9/1-8 1fda-1fdb/1-100 1fe8-1fe9/1-8
   1fea-1feb/1-112 1fec-1fec/1-7 1ff8-1ff9/1-128 1ffa-1ffb/1-126 1ffc-1ffc/1-9
   2126-2126/1-7517 212a-212a/1-8383 212b-212b/1-8262 2132-2132/1+28 2160-216f/1+16
   2183-2183/1+1 24b6-24cf/1+26 2c00-2c2f/1+48 2c60-2c60/1+1 2c62-2c62/1-10743
   2c63-2c63/1-3814 2c64-2c64/1-10727 2c67-2c6b/2+1 2c6d-2c6d/1-10780 2c6e-2c6e/1-10749
   2c6f-2c6f/1-10783 2c70-2c70/1-10782 2c72-2c72/1+1 2c75-2c75/1+1 2c7e-2c7f/1-10815
   2c80-2ce2/2+1 2ceb-2ced/2+1 2cf2-2cf2/1+1 a640-a66c/2+1 a680-a69a/2+1 a722-a72e/2+1
   a732-a76e/2+1 a779-a77b/2+1 a77d-a77d/1-35332 a77e-a786/2+1 a78b-a78b/1+1
   a78d-a78d/1-42280 a790-a792/2+1 a796-a7a8/2+1 a7aa-a7aa/1-42308 a7ab-a7ab/1-42319
   a7ac-a7ac/1-42315 a7ad-a7ad/1-42305 a7ae-a7ae/1-42308 a7b0-a7b0/1-42258
   a7b1-a7b1/1-42282 a7b2-a7b2/1-42261 a7b3-a7b3/1+928 a7b4-a7c2/2+1 a7c4-a7c4/1-48
   a7c5-a7c5/1-42307 a7c6-a7c6/1-35384 a7c7-a7c9/2+1 a7d0-a7d0/1+1 a7d6-a7d8/2+1
   a7f5-a7f5/1+1 ff21-ff3a/1+32 10400-10427/1+40 104b0-104d3/1+40 10570-1057a/1+39
   1057c-1058a/1+39 1058c-10592/1+39 10594-10595/1+39 10c80-10cb2/1+64 118a0-118bf/1+32
   16e40-16e5f/1+32 1e900-1e921/1+34"

/-- Characters whose lower case is several characters. -/
def lowerExpansions : List (Nat × List Nat) := CaseRun.readExpansions
  "130=69+307"

/-- Characters beyond ASCII that have case. -/
def casedRanges : List Range := Range.readAll
  "aa b5 ba c0-d6 d8-f6 f8-1ba 1bc-1bf 1c4-293 295-2af 370-373 376-377 37b-37d 37f 386
   388-38a 38c 38e-3a1 3a3-3f5 3f7-481 48a-52f 531-556 560-588 10a0-10c5 10c7 10cd
   10d0-10fa 10fd-10ff 13a0-13f5 13f8-13fd 1c80-1c88 1c90-1cba 1cbd-1cbf 1d00-1d2b
   1d6b-1d77 1d79-1d9a 1e00-1f15 1f18-1f1d 1f20-1f45 1f48-1f4d 1f50-1f57 1f59 1f5b 1f5d
   1f5f-1f7d 1f80-1fb4 1fb6-1fbc 1fbe 1fc2-1fc4 1fc6-1fcc 1fd0-1fd3 1fd6-1fdb 1fe0-1fec
   1ff2-1ff4 1ff6-1ffc 2102 2107 210a-2113 2115 2119-211d 2124 2126 2128 212a-212d
   212f-2134 2139 213c-213f 2145-2149 214e 2160-217f 2183-2184 24b6-24e9 2c00-2c7b
   2c7e-2ce4 2ceb-2cee 2cf2-2cf3 2d00-2d25 2d27 2d2d a640-a66d a680-a69b a722-a76f
   a771-a787 a78b-a78e a790-a7ca a7d0-a7d1 a7d3 a7d5-a7d9 a7f5-a7f6 a7fa ab30-ab5a
   ab60-ab68 ab70-abbf fb00-fb06 fb13-fb17 ff21-ff3a ff41-ff5a 10400-1044f 104b0-104d3
   104d8-104fb 10570-1057a 1057c-1058a 1058c-10592 10594-10595 10597-105a1 105a3-105b1
   105b3-105b9 105bb-105bc 10c80-10cb2 10cc0-10cf2 118a0-118df 16e40-16e7f 1d400-1d454
   1d456-1d49c 1d49e-1d49f 1d4a2 1d4a5-1d4a6 1d4a9-1d4ac 1d4ae-1d4b9 1d4bb 1d4bd-1d4c3
   1d4c5-1d505 1d507-1d50a 1d50d-1d514 1d516-1d51c 1d51e-1d539 1d53b-1d53e 1d540-1d544
   1d546 1d54a-1d550 1d552-1d6a5 1d6a8-1d6c0 1d6c2-1d6da 1d6dc-1d6fa 1d6fc-1d714
   1d716-1d734 1d736-1d74e 1d750-1d76e 1d770-1d788 1d78a-1d7a8 1d7aa-1d7c2 1d7c4-1d7cb
   1df00-1df09 1df0b-1df1e 1e900-1e943 1f130-1f149 1f150-1f169 1f170-1f189"

/-- Characters that are passed over when the neighbours of a sigma are looked up. -/
def ignorableRanges : List Range := Range.readAll
  "27 2e 3a 5e 60 a8 ad af b4 b7-b8 2b0-36f 374-375 37a 384-385 387 483-489 559 55f
   591-5bd 5bf 5c1-5c2 5c4-5c5 5c7 5f4 600-605 610-61a 61c 640 64b-65f 670 6d6-6dd
   6df-6e8 6ea-6ed 70f 711 730-74a 7a6-7b0 7eb-7f5 7fa 7fd 816-82d 859-85b 888 890-891
   898-89f 8c9-902 93a 93c 941-948 94d 951-957 962-963 971 981 9bc 9c1-9c4 9cd 9e2-9e3
   9fe a01-a02 a3c a41-a42 a47-a48 a4b-a4d a51 a70-a71 a75 a81-a82 abc ac1-ac5 ac7-ac8
   acd ae2-ae3 afa-aff b01 b3c b3f b41-b44 b4d b55-b56 b62-b63 b82 bc0 bcd c00 c04 c3c
   c3e-c40 c46-c48 c4a-c4d c55-c56 c62-c63 c81 cbc cbf cc6 ccc-ccd ce2-ce3 d00-d01
   d3b-d3c d41-d44 d4d d62-d63 d81 dca dd2-dd4 dd6 e31 e34-e3a e46-e4e eb1 eb4-ebc ec6
   ec8-ecd f18-f19 f35 f37 f39 f71-f7e f80-f84 f86-f87 f8d-f97 f99-fbc fc6 102d-1030
   1032-1037 1039-103a 103d-103e 1058-1059 105e-1060 1071-1074 1082 1085-1086 108d 109d
   10fc 135d-135f 1712-1714 1732-1733 1752-1753 1772-1773 17b4-17b5 17b7-17bd 17c6
   17c9-17d3 17d7 17dd 180b-180f 1843 1885-1886 18a9 1920-1922 1927-1928 1932 1939-193b
   1a17-1a18 1a1b 1a56 1a58-1a5e 1a60 1a62 1a65-1a6c 1a73-1a7c 1a7f 1aa7 1ab0-1ace
   1b00-1b03 1b34 1b36-1b3a 1b3c 1b42 1b6b-1b73 1b80-1b81 1ba2-1ba5 1ba8-1ba9 1bab-1bad
   1be6 1be8-1be9 1bed 1bef-1bf1 1c2c-1c33 1c36-1c37 1c78-1c7d 1cd0-1cd2 1cd4-1ce0
   1ce2-1ce8 1ced 1cf4 1cf8-1cf9 1d2c-1d6a 1d78 1d9b-1dff 1fbd 1fbf-1fc1 1fcd-1fcf
   1fdd-1fdf 1fed-1fef 1ffd-1ffe 200b-200f 2018-2019 2024 2027 202a-202e 2060-2064
   2066-206f 2071 207f 2090-209c 20d0-20f0 2c7c-2c7d 2cef-2cf1 2d6f 2d7f 2de0-2dff 2e2f
   3005 302a-302d 3031-3035 303b 3099-309e 30fc-30fe a015 a4f8-a4fd a60c a66f-a672
   a674-a67d a67f a69c-a69f a6f0-a6f1 a700-a721 a770 a788-a78a a7f2-a7f4 a7f8-a7f9 a802
   a806 a80b a825-a826 a82c a8c4-a8c5 a8e0-a8f1 a8ff a926-a92d a947-a951 a980-a982 a9b3
   a9b6-a9b9 a9bc-a9bd a9cf a9e5-a9e6 aa29-aa2e aa31-aa32 aa35-aa36 aa43 aa4c aa70 aa7c
   aab0 aab2-aab4 aab7-aab8 aabe-aabf aac1 aadd aaec-aaed aaf3-aaf4 aaf6 ab5b-ab5f
   ab69-ab6b abe5 abe8 abed fb1e fbb2-fbc2 fe00-fe0f fe13 fe20-fe2f fe52 fe55 feff ff07
   ff0e ff1a ff3e ff40 ff70 ff9e-ff9f ffe3 fff9-fffb 101fd 102e0 10376-1037a
   10780-10785 10787-107b0 107b2-107ba 10a01-10a03 10a05-10a06 10a0c-10a0f 10a38-10a3a
   10a3f 10ae5-10ae6 10d24-10d27 10eab-10eac 10f46-10f50 10f82-10f85 11001 11038-11046
   11070 11073-11074 1107f-11081 110b3-110b6 110b9-110ba 110bd 110c2 110cd 11100-11102
   11127-1112b 1112d-11134 11173 11180-11181 111b6-111be 111c9-111cc 111cf 1122f-11231
   11234 11236-11237 1123e 112df 112e3-112ea 11300-11301 1133b-1133c 11340 11366-1136c
   11370-11374 11438-1143f 11442-11444 11446 1145e 114b3-114b8 114ba 114bf-114c0
   114c2-114c3 115b2-115b5 115bc-115bd 115bf-115c0 115dc-115dd 11633-1163a 1163d
   1163f-11640 116ab 116ad 116b0-116b5 116b7 1171d-1171f 11722-11725 11727-1172b
   1182f-11837 11839-1183a 1193b-1193c 1193e 11943 119d4-119d7 119da-119db 119e0
   11a01-11a0a 11a33-11a38 11a3b-11a3e 11a47 11a51-11a56 11a59-11a5b 11a8a-11a96
   11a98-11a99 11c30-11c36 11c38-11c3d 11c3f 11c92-11ca7 11caa-11cb0 11cb2-11cb3
   11cb5-11cb6 11d31-11d36 11d3a 11d3c-11d3d 11d3f-11d45 11d47 11d90-11d91 11d95 11d97
   11ef3-11ef4 13430-13438 16af0-16af4 16b30-16b36 16b40-16b43 16f4f 16f8f-16f9f
   16fe0-16fe1 16fe3-16fe4 1aff0-1aff3 1aff5-1affb 1affd-1affe 1bc9d-1bc9e 1bca0-1bca3
   1cf00-1cf2d 1cf30-1cf46 1d167-1d169 1d173-1d182 1d185-1d18b 1d1aa-1d1ad 1d242-1d244
   1da00-1da36 1da3b-1da6c 1da75 1da84 1da9b-1da9f 1daa1-1daaf 1e000-1e006 1e008-1e018
   1e01b-1e021 1e023-1e024 1e026-1e02a 1e130-1e13d 1e2ae 1e2ec-1e2ef 1e8d0-1e8d6
   1e944-1e94b 1f3fb-1f3ff e0001 e0020-e007f e0100-e01ef"

end StyleRules.Text
