-- SUMMARY: The scripts of characters.

/-!
# Scripts

The table follows version 15.0 of the Unicode character database.
-/
namespace ControlDependence.Text

/-- The name of each script and its ranges, which are coded like those of categories. -/
def scriptTable : List (String × String) := [
  ("Adlam", "2olc-23 5-9 5-1"),
  ("Ahom", "1j40-q 3-e 5-m"),
  ("Anatolian_Hieroglyphs", "1s00-g6"),
  ("Arabic", "16o-4 2-5 2-d 2-2 2-v 2-9 c-p 2-2z 2-x 29-1b 6p-u 2-1 7-21 2-s 1bv5-36 h-a2 3-27 3-1h 8 x-f
    35-4 2-3q 31g-u 3j-2 181t-3 2-q 2-1 2 3 2-9 2-3 2 2 7 5 2 2 2-2 2-1 2 3 2 2 2 2 2-1 2 3-3
    2-6 2-3 2-3 2 2-9 2-g 6-2 2-4 2-g 1h-1"),
  ("Armenian", "10x-11 3-1d 3-2 1chw-4"),
  ("Avestan", "1gqo-1h 4-6"),
  ("Balinese", "5c0-24 4-1a"),
  ("Bamum", "www-2f 124p-fs"),
  ("Bassa_Vah", "1zo0-t 3-5"),
  ("Batak", "5hc-1f 9-3"),
  ("Bengali", "1vk-3 2-7 3-1 3-l 2-6 2 4-3 3-8 3-1 3-3 9 5-1 2-4 3-o"),
  ("Bhaiksuki", "1k3k-8 2-18 2-d b-s"),
  ("Bopomofo", "kq-1 93u-16 35-v"),
  ("Brahmi", "1hq8-25 5-z a"),
  ("Braille", "7wg-73"),
  ("Buginese", "54w-r 3-1"),
  ("Buhid", "4lc-j"),
  ("Canadian_Aboriginal", "3y8-hr fl-1x 1ewr-f"),
  ("Carian", "1f34-1c"),
  ("Caucasian_Albanian", "1flc-1f c"),
  ("Chakma", "1hxc-1g 2-h"),
  ("Cham", "xkw-1i a-d 3-9 3-3"),
  ("Cherokee", "3vk-2d 3-5 twz-27"),
  ("Chorasmian", "1ho0-r"),
  ("Common", "0-1s r-5 r-1a 2-e 2-4 o w ci-12 6-4 3-j 39 a 7 2 hq 7 f 4 x 4d ed 3m-1 yi ba-3 83 168-2 20-1
    5o-1 2 y6 e 8-3 2-5 2-2 3 li-b 3-2e 2-a 4-a 2-e i-w 1s-11 2-2 3-5 2-q 2-g 16-2 5-ie q-a m-pr
    75-hf 3-v 2-2w e9-2l b7-b 5-4 2 2-o g-7 5-3 2k-1 4 2j-1 44-f x-z 1p-1r w-28 1c 2h-4n 535-1r
    hkx-x 2v-2 4m-9 6t 4h b0 f-1 g5v-1 5t-9 n-y 2-i 2-3 44 2-v r-5 r-a b 1a-1 1t-6 2-6 b-4 77-2
    5-18 4-8 29-c 1g-18 6d-q 10o5-3 3ot-37 1p-6t b-12 3-1p 4-g 9-1 8-t 5-1o 5y-j d-j d-2e a-o
    3s-2c 2-1y 2-1 3 3-1 3-3 2-b 2 2-6 2-1s 2-3 3-7 2-6 2-r 2-3 2-4 2 4-6 2-9f 3-83 3-1d 41e-1v
    25-1o jn-17 5-2r d-e 3-e 2-e 2-10 b-4t 1l-p 2-1 e-17 5-8 8-1 f-5 4b-rb 5-g 4-c 4-3a 5-2m 7-b
    5 g-b 5-1j 9-9 7-13 9-t 3-1 27-9f d-d 3-c 4-8 8-19 2-6 9-d 5-8 8-8 8-42 2-1i 12-9 gvm0 v-2n"),
  ("Coptic", "rm-d 80h-37 6-6"),
  ("Cuneiform", "1kw0-pl 2v-32 2-4 c-5f"),
  ("Cypriot", "1g5c-5 3 2-17 2-1 4 3"),
  ("Cypro_Minoan", "1nyo-2q"),
  ("Cyrillic", "sg-3o 3-4o 4lt-8 4j 25 38o-v nr5-2n han-1 18n5-1p y"),
  ("Deseret", "1fcw-27"),
  ("Devanagari", "1s0-28 5-e 3-p vhd-v mip-9"),
  ("Dives_Akuru", "1ji8-6 3 3-7 2-1 2-t 2-1 3-b a-9"),
  ("Dogra", "1jb4-1n"),
  ("Duployan", "2fpc-2y 6-c 4-8 8-9 3-3"),
  ("Egyptian_Hieroglyphs", "1o1s-ut"),
  ("Elbasan", "1fk0-13"),
  ("Elymaic", "1hpc-m"),
  ("Ethiopic", "3k0-20 2-3 3-6 2 2-3 3-14 2-3 3-w 2-3 3-6 2 2-3 3-e 2-1k 2-3 3-1u 3-v 4-p 547-m a-6 2-6 2-6
    2-6 2-6 2-6 2-6 2-6 opv-5 3-5 3-5 a-6 2-6 1qk2-6 2-3 2-1 2-e"),
  ("Georgian", "3a8-11 2 6 3-16 2-3 2a9-16 3-2 37l-11 2 6"),
  ("Glagolitic", "8ow-2n 2e1t-6 2-g 3-6 2-1 2-4"),
  ("Gothic", "1f74-q"),
  ("Grantha", "1ibk-3 2-7 3-1 3-l 2-6 2-1 2-4 3-8 3-1 3-2 3 7 6-6 3-6 4-4"),
  ("Greek", "og-3 2-2 3-3 2 5 2 2-2 2 2-j 2-1q f-f 4yv-4 1f-4 5-4 2d 8x-l 3-5 3-11 3-5 3-7 2 2 2 2-u 3-1g
    2-e 2-d 3-5 2-i 3-2 2-8 88 rb3 gyj-26 i 155s-1x"),
  ("Gujarati", "22p-2 2-8 2-2 2-l 2-6 2-1 2-4 3-9 2-2 2-2 3 g-3 3-b 8-6"),
  ("Gunjala_Gondi", "1kdc-5 2-1 2-10 2-1 2-5 8-9"),
  ("Gurmukhi", "1z5-2 2-5 5-1 3-l 2-6 2-1 2-1 2-1 3 2-4 5-1 3-2 4 8-3 2 8-g"),
  ("Han", "96o-p 2-2g d-5x 1c 2 q-8 f-3 qt-533 1t-g73 hkx-a5 3-2x n49-1 d-1 sgf-wyn x-37d 7-65 3-4g1
    f-5rk 2e8-f1 15v-3t6 6-38f"),
  ("Hangul", "3cw-73 5yn-1 76-2l 36-u 1u-u nhe-s hw-8mb d-m 5-1c 7tx-u 4-5 3-5 3-5 3-2"),
  ("Hanifi_Rohingya", "1h4w-13 9-9"),
  ("Hanunoo", "4kg-k"),
  ("Hatran", "1gbk-i 2-1 6-4"),
  ("Hebrew", "13l-1i 9-q 5-5 1cfd-p 2-4 2 2-1 2-1 2-9"),
  ("Hiragana", "9j5-2d 7-2 23qa-7y j u-2 cry"),
  ("Imperial_Aramaic", "1g74-l 2-8"),
  ("Inherited", "lc-33 7q-1 cl-a r kh-3 3fg-u ea-2 2-c 2-6 5 7 4-1 5j-1r el-1 5f-w 30a-3 30-1 14km-f h-d r4
    6b 38b 1139-19 3-m f5-2 i-7 3-6 v-3 h45v-6n"),
  ("Inscriptional_Pahlavi", "1gtc-i 6-7"),
  ("Inscriptional_Parthian", "1gsg-l 3-7"),
  ("Javanese", "xhc-25 3-9 5-1"),
  ("Kaithi", "1hts-1u b"),
  ("Kannada", "2gw-c 2-2 2-m 2-9 2-4 3-8 2-2 2-3 8-1 7-1 2-3 3-9 2-2"),
  ("Katakana", "9lt-2h 3-2 6p-f 5t-1a 2-2f 14b3-9 2-18 ytv-3 2-6 2-1 2 80-2 1f f-3"),
  ("Kawi", "1kow-g 2-14 4-r"),
  ("Kayah_Li", "xds-19 2"),
  ("Kharoshthi", "1gjk-3 2-1 6-7 2-2 2-s 3-2 5-9 8-8"),
  ("Khitan_Small_Script", "20o4 5cs-d1"),
  ("Khmer", "4n4-2l 3-9 7-9 dj-v"),
  ("Khojki", "1i4g-h 2-1a"),
  ("Khudawadi", "1i9c-1m 6-9"),
  ("Lao", "2v5-1 2 2-4 2-n 2 2-m 3-4 2 2-6 2-9 3-3"),
  ("Latin", "1t-p 7-p 1c g 6-m 2-u 2-cg 14-4 55o-11 7-1c 6-3 6-c 2-1x 1u-73 aa e h-c 3y-1 7 s i-14 254-v
    o83-2t 4-1r 6-1 2 2-4 p-d mp-16 2-8 2-3 fpz-6 t7-p 7-p 1ly-5 2-15 2-8 16iu-u 7-5"),
  ("Lepcha", "5j4-1j 4-e 4-2"),
  ("Limbu", "4xs-u 2-b 5-b 5 4-b"),
  ("Linear_A", "1fr4-8m a-l b-7"),
  ("Linear_B", "1ekg-b 2-p 2-i 2-1 2-e 3-d z-3e"),
  ("Lisu", "wk0-1b o8h"),
  ("Lycian", "1f28-s"),
  ("Lydian", "1gdc-p 6"),
  ("Mahajani", "1hzk-12"),
  ("Makasar", "1ko0-o"),
  ("Malayalam", "2kg-c 2-2 2-1e 2-2 2-5 5-f 3-p"),
  ("Mandaic", "1mo-r 3"),
  ("Manichaean", "1gow-12 5-b"),
  ("Marchen", "1k6o-v 3-l 2-d"),
  ("Masaram_Gondi", "1kao-6 2-1 2-17 4 2-1 2-8 9-9"),
  ("Medefaidrin", "20cg-2i"),
  ("Meetei_Mayek", "xr4-m 5m-19 3-9"),
  ("Mende_Kikakui", "2oe8-5g 3-f"),
  ("Meroitic_Cursive", "1ggw-n 5-j 3-19"),
  ("Meroitic_Hieroglyphs", "1gg0-v"),
  ("Miao", "20hs-22 5-1k 8-g"),
  ("Modi", "1iww-1w c-9"),
  ("Mongolian", "4qo-1 3 2-j 7-2g 8-16 1e46-c"),
  ("Mro", "1zk0-u 2-9 5-1"),
  ("Multani", "1i80-6 2 2-3 2-e 2-a"),
  ("Myanmar", "35s-4f u9t-u 2q-v"),
  ("Nabataean", "1g8w-u 9-8"),
  ("Nag_Mundari", "2nrk-15"),
  ("Nandinagari", "1jmo-7 3-19 3-a"),
  ("New_Tai_Lue", "51c-17 5-p 7-a 4-1"),
  ("Newa", "1iio-2j 2-4"),
  ("Nko", "1j4-1m 3-2"),
  ("Nushu", "20o1 cy7-az"),
  ("Nyiakeng_Puachue_Hmong", "2n0g-18 4-d 3-9 5-1"),
  ("Ogham", "4g0-s"),
  ("Ol_Chiki", "5lc-1b"),
  ("Old_Hungarian", "1h1c-1e e-1e 8-5"),
  ("Old_Italic", "1f5s-z a-2"),
  ("Old_North_Arabian", "1gn4-v"),
  ("Old_Permic", "1f80-16"),
  ("Old_Persian", "1fa8-z 5-d"),
  ("Old_Sogdian", "1hj4-13"),
  ("Old_South_Arabian", "1gm8-v"),
  ("Old_Turkic", "1gxs-20"),
  ("Old_Uyghur", "1hm8-p"),
  ("Oriya", "269-2 2-7 3-1 3-l 2-6 2-1 2-4 3-8 3-1 3-2 8-2 5-1 2-4 3-h"),
  ("Osage", "1fhs-z 5-z"),
  ("Osmanya", "1fgg-t 3-9"),
  ("Pahawh_Hmong", "1zpc-1x b-9 2-6 2-k 6-i"),
  ("Palmyrene", "1g80-v"),
  ("Pau_Cin_Hau", "1juo-1k"),
  ("Phags_Pa", "x8g-1j"),
  ("Phoenician", "1gcg-r 4"),
  ("Psalter_Pahlavi", "1gu8-h 8-3 d-6"),
  ("Rejang", "xf4-z c"),
  ("Runic", "4gw-22 4-a"),
  ("Samaritan", "1kw-19 3-e"),
  ("Saurashtra", "xa8-1x 9-b"),
  ("Sharada", "1i0w-2n"),
  ("Shavian", "1ff4-1b"),
  ("Siddham", "1itc-1h 3-11"),
  ("SignWriting", "2l8g-i3 g-4 2-e"),
  ("Sinhala", "2o1-2 2-h 4-n 2-8 2 3-6 4 5-5 2 2-7 7-9 3-2 1fcd-j"),
  ("Sogdian", "1hkg-15"),
  ("Sora_Sompeng", "1hw0-o 8-9"),
  ("Soyombo", "1jrk-2a"),
  ("Sundanese", "5fk-1r 75-7"),
  ("Syloti_Nagri", "x6o-18"),
  ("Syriac", "1ds-d 2-1n 3-2 7l-a"),
  ("Tagalog", "4jk-l a"),
  ("Tagbanwa", "4m8-c 2-2 2-1"),
  ("Tai_Le", "500-t 3-4"),
  ("Tai_Tham", "55s-1q 2-s 3-a 7-9 7-d"),
  ("Tai_Viet", "xog-1u p-4"),
  ("Takri", "1j0g-1l 7-9"),
  ("Tamil", "29u-1 2-5 4-2 2-3 4-1 2 2-1 4-1 4-2 4-b 5-4 4-2 2-3 3 7 f-k 1ih2-1d e"),
  ("Tangsa", "1zlc-26 2-9"),
  ("Tangut", "20o0 w-4qf 9-lb e9-8"),
  ("Telugu", "2dc-c 2-2 2-m 2-f 3-8 2-2 2-3 8-1 2-2 3 3-3 3-9 8-8"),
  ("Thaana", "1hc-1d"),
  ("Thai", "2rl-1l 6-r"),
  ("Tibetan", "2yo-1z 2-z 5-12 2-z 2-e 2-6 5-1"),
  ("Tifinagh", "8xc-1j 8-1 f"),
  ("Tirhuta", "1im8-1z 9-9"),
  ("Toto", "2nbk-u"),
  ("Ugaritic", "1f9c-t 2"),
  ("Unknown", "oo-1 7-3 8 2 l b2 13-1 1f-1 4 1k-7 s-3 7-a 7j 1p-1 2u-d 1o-1 1e-1 g t-1 2 c-4 w 3-5 6l 9-1
    3-1 n 8 2-2 5-1 a-1 3-1 5-7 2-3 3 6-1 q-1 4 7-3 3-1 n 8 3 3 3-1 2 6-3 3-1 4-2 2-6 5 2-6 i-9
    4 a 4 n 8 3 6-1 b 4 4-1 2-e 5-1 d-6 8 4 9-1 3-1 n 8 3 6-1 a-1 3-1 4-6 4-3 3 6-1 j-9 3 7-2 4
    5-2 3 2 3-2 3-2 4-2 d-3 6-2 4 5-1 2-5 2-d m-4 e 4 o h-1 a 4 5-6 3 4-1 2-1 5-1 b-6 n 4 o b
    6-1 a 4 5-6 3-5 3 5-1 b 4-b e 4 1g 4 7-3 h-1 r 4 j-2 p a 2-1 8-2 2-3 7 2 9-5 b-1 4-b 1n-3
    u-10 3 2 6 p 2 o-1 6 2 8 b-1 5-v 21 11-3 14 11 g e-10 5j 2-4 2-1 ai 5-1 8 2 5-1 16 5-1 y 5-1
    8 2 5-1 g 1m 5-1 1w-1 x-2 r-5 2f-1 7-1 im-2 2i-6 n-8 p-8 l-b e 4 3-b 2n-1 b-5 b-5 r-5 2i-6
    18-4 1z-9 w d-3 d-3 2-2 17-1 6-a 19-3 r-5 c-2 1r-1 1u u-1 c-5 b-5 f-1 w-1c 26-2 1c 39-7 1p-2
    g-2 1p-6 18-1 c-7 18-4 ev-1 7-1 13-1 7-1 9 2 2 2 w-1 1i g f-1 7 k-1 4 a 2u d-1 s e-2 y-e y-e
    3x-3 ig-o c-k 1ed-1 x 9q-4 1a 2-4 2-1 1l-6 3-d p-8 8 8 8 8 8 8 8 8 3j-x r 2i-b 5z-p d-3 1t
    2f-1 2w-4 18 2n 2d-b 1c mlq-2 1k-8 9p-j 55-7 5o-4 3 2 6-n 1o-2 b-5 1l-7 1z-7 d-5 39-a v-2 27
    c-3 y 1k-8 f-1 b-1 2w-n t-9 7-1 7-1 7-8 8 8 1p-3 3j-1 b-5 8md-b o-3 1e-6ir a7-1 2z-11 8-b
    6-4 r 6 2 3 3 3i-f ce-1 1j-6 2-v 17-5 1g k 5-3 6 3s-1 2 5b-2 7-1 7-1 7-1 4-2 8 8-9 6-1 d r k
    3 g-1 f-x 3g-4 4-3 1a-2 2h e-2 2-1a 1b-3l u-2 1e-e t-3 11-8 v-4 18-4 v 12-3 f-15 4f-1 b-5
    11-3 11-3 15-7 1h-a d g 8 3 c g 8 3-1u 8o-8 n-9 9-n 7 17 a-1w 7-1 2 19 3-2 2-1 o 21-7 a-1b k
    3-4 y-2 s-4 2-1r 1l-3 l-1 1f 3-4 9 4 u-1 4-3 b-6 a-6 1t-v 14-3 d-8 1j-2 u-1 s-4 r-6 5-b 8-27
    22-1i 1g-c 1g-6 1b-7 b-85 w 17 4-1 3-22 18-7 17-l r-11 t-j o-8 27-3 11-8 1x-9 2-1 q-6 b-5 1i
    j-7 14-8 2p l-a j 1c-1p 8 2 5 g c-5 1o-4 b-5 5 9-1 3-1 n 8 3 6 b-1 3-1 4-1 2-5 2-4 8-1 8-2
    6-3u 2l 6-t 21-7 b-4l 1j-1 13-x 1y-a b-5 e-i 1n-5 b-1h s-1 g-3 o-54 1p-2r 2c-b 9-1 2-1 9 3 v
    3-1 d-8 b-1x 9-1 1b-1 c-q 21-7 2c-c 22-6 b-6t a 1a f-9 u-2 x-1 n f-20 8 3 19-2 2 3 a-7 b-5 7
    3 12 3 7-6 b-8l q-6 i 16-2 t-2d 2-e 1f-c po-2t 34 6-a 5h-217 2s-c uv-33d g8-6ns fu-6 w b-3
    2a b-5 v-1 7-9 1z-9 b 8 m-4 k-j3 2k-2s 24-3 1m-6 i-1r 6-a 3-d 4qh-7 yf-15 a-6w6 5 8 3 84-e
    2-s 4-1 2-d 5-7 b1-1s3 30-4 e-2 a-6 b-1 9-3mj 1b-1 o-8 39-1n 6v-9 14-1 5f-k 1z-3d l-b l-b
    2g-8 q-3q 2e 20 3-1 2-1 3-1 5 d 2 8 1u 5-1 9 8 t 5 6 2-2 8 9h-1 85-1 jj-e 6 g-un w-5 7-5w 8
    i-1 8 3 6-4 1r-w 2-33 1a-2 f-1 b-3 3-8v w-g 1n-4 2-cv 17-kl 8 5 3 g 5i-1 h-14 25-3 b-3 3-ls
    1x-23 1q-5d 5 s 3 2-1 2 b 5 2 2-5 2-3 2 2 2 4 3 2-1 2 2 2 2 2 3 2-1 5 8 5 5 2 b i-4 4 6 i-1f
    3-7h 19-3 2t-b g-1 g g 12-9 4v-1j u-c 19-3 a-6 3-d 7-49 rd-3 i-2 e-2 3c-3 2o-5 d-3 2-e d-3
    1l-7 b-5 15-7 v-1 3-25 9h-b f-1 e-2 a-6 1b 8-7 f-3 a-6 a-6 44 1k-10 b-sl wyp-v 37f-5 67-1
    4g3-d 5rm-2e6 f3-15t 3t8-4 38h-f974 2-t 2p-3j 6p-47bj"),
  ("Vai", "wlc-8b"),
  ("Vithkuqi", "1fn4-a 2-e 2-6 2-1 2-a 2-e 2-6 2-1"),
  ("Wancho", "2ncw-1l 6"),
  ("Warang_Citi", "1jfk-2a d"),
  ("Yezidi", "1hfk-15 2-2 3-1"),
  ("Yi", "vls-wc 4-1i"),
  ("Zanabazar_Square", "1jpc-1z")
]

end ControlDependence.Text
