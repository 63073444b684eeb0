/-!
# Tables of the forms of characters in names

Which characters a name has in another form than the one that is written, which ones it
drops, and which ones it cannot have at all.  Characters in none of the tables stand for
themselves.
-/

namespace StorageArray.Http.Name

/-- Characters that are moved, as runs `(first, last, step, shift)` in ascending order:
every `step`-th character from `first` to `last` is moved by `shift`. -/
def movedRuns : List (Nat × Nat × Nat × Int) :=
  [(0x41, 0x5a, 1, 32), (0xc0, 0xd6, 1, 32), (0xd8, 0xde, 1, 32), (0x100, 0x12e, 2, 1),
    (0x141, 0x147, 2, 1), (0x14a, 0x176, 2, 1), (0x1cd, 0x1db, 2, 1), (0x1de, 0x1ee, 2, 1),
    (0x1f8, 0x21e, 2, 1), (0x222, 0x232, 2, 1), (0x246, 0x24e, 2, 1), (0x391, 0x3a1, 1, 32),
    (0x3a3, 0x3ab, 1, 32), (0x3d8, 0x3ee, 2, 1), (0x400, 0x40f, 1, 80),
    (0x410, 0x42f, 1, 32), (0x460, 0x480, 2, 1), (0x48a, 0x4be, 2, 1), (0x4c1, 0x4cd, 2, 1),
    (0x4d0, 0x52e, 2, 1), (0x531, 0x556, 1, 48), (0x10a0, 0x10c5, 1, 7264),
    (0x13f8, 0x13fd, 1, -8), (0x1c90, 0x1cba, 1, -3008), (0x1d31, 0x1d39, 2, -7372),
    (0x1d34, 0x1d3a, 1, -7372), (0x1dae, 0x1db1, 1, -6972), (0x1e00, 0x1e94, 2, 1),
    (0x1ea0, 0x1efe, 2, 1), (0x1f08, 0x1f0f, 1, -8), (0x1f18, 0x1f1d, 1, -8),
    (0x1f28, 0x1f2f, 1, -8), (0x1f38, 0x1f3f, 1, -8), (0x1f48, 0x1f4d, 1, -8),
    (0x1f59, 0x1f5f, 2, -8), (0x1f68, 0x1f6f, 1, -8), (0x2074, 0x2079, 1, -8256),
    (0x2080, 0x2089, 1, -8272), (0x2096, 0x2099, 1, -8235), (0x2135, 0x2138, 1, -7013),
    (0x2460, 0x2468, 1, -9263), (0x24b6, 0x24cf, 1, -9301), (0x24d0, 0x24e9, 1, -9327),
    (0x2c00, 0x2c2f, 1, 48), (0x2c80, 0x2ce2, 2, 1), (0x313a, 0x313f, 1, -8074),
    (0x3145, 0x314e, 1, -8252), (0x314f, 0x3163, 1, -8174), (0x3178, 0x317c, 1, -8269),
    (0x3269, 0x326d, 1, -8539), (0x32e4, 0x32e9, 1, -538), (0x32ee, 0x32f2, 1, -528),
    (0x32f5, 0x32fa, 1, -525), (0x32fb, 0x32fe, 1, -524), (0xa640, 0xa66c, 2, 1),
    (0xa680, 0xa69a, 2, 1), (0xa722, 0xa72e, 2, 1), (0xa732, 0xa76e, 2, 1),
    (0xa77e, 0xa786, 2, 1), (0xa796, 0xa7a8, 2, 1), (0xa7b4, 0xa7c2, 2, 1),
    (0xa7cc, 0xa7da, 2, 1), (0xab70, 0xabbf, 1, -38864), (0xfe41, 0xfe44, 1, -52789),
    (0xff01, 0xff20, 1, -65248), (0xff21, 0xff3a, 1, -65216), (0xff3b, 0xff5e, 1, -65248),
    (0xff85, 0xff8a, 1, -52923), (0xff8f, 0xff93, 1, -52913), (0xff96, 0xff9b, 1, -52910),
    (0xffaa, 0xffaf, 1, -60922), (0xffb5, 0xffbe, 1, -61100), (0xffc2, 0xffc7, 1, -61025),
    (0xffca, 0xffcf, 1, -61027), (0xffd2, 0xffd7, 1, -61029), (0xffe9, 0xffec, 1, -56921),
    (0x10400, 0x10427, 1, 40), (0x104b0, 0x104d3, 1, 40), (0x10570, 0x10594, 2, 39),
    (0x10571, 0x1057a, 1, 39), (0x1057d, 0x1058a, 1, 39), (0x1058d, 0x10592, 1, 39),
    (0x10c80, 0x10cb2, 1, 64), (0x10d50, 0x10d65, 1, 32), (0x118a0, 0x118bf, 1, 32),
    (0x16e40, 0x16e5f, 1, 32), (0x16ea0, 0x16eb8, 1, 27), (0x1ccd6, 0x1ccef, 1, -117877),
    (0x1ccf0, 0x1ccf9, 1, -117952), (0x1d400, 0x1d419, 1, -119711),
    (0x1d41a, 0x1d433, 1, -119737), (0x1d434, 0x1d44d, 1, -119763),
    (0x1d44e, 0x1d466, 2, -119789), (0x1d44f, 0x1d454, 1, -119789),
    (0x1d457, 0x1d467, 1, -119789), (0x1d468, 0x1d481, 1, -119815),
    (0x1d482, 0x1d49b, 1, -119841), (0x1d4a9, 0x1d4ac, 1, -119867),
    (0x1d4ae, 0x1d4b5, 1, -119867), (0x1d4b6, 0x1d4b9, 1, -119893),
    (0x1d4bb, 0x1d4cf, 2, -119893), (0x1d4be, 0x1d4c3, 1, -119893),
    (0x1d4c6, 0x1d4cf, 1, -119893), (0x1d4d0, 0x1d4e9, 1, -119919),
    (0x1d4ea, 0x1d503, 1, -119945), (0x1d507, 0x1d50a, 1, -119971),
    (0x1d50d, 0x1d514, 1, -119971), (0x1d516, 0x1d51c, 1, -119971),
    (0x1d51e, 0x1d537, 1, -119997), (0x1d53b, 0x1d53e, 1, -120023),
    (0x1d540, 0x1d544, 1, -120023), (0x1d54a, 0x1d550, 1, -120023),
    (0x1d552, 0x1d56b, 1, -120049), (0x1d56c, 0x1d585, 1, -120075),
    (0x1d586, 0x1d59f, 1, -120101), (0x1d5a0, 0x1d5b9, 1, -120127),
    (0x1d5ba, 0x1d5d3, 1, -120153), (0x1d5d4, 0x1d5ed, 1, -120179),
    (0x1d5ee, 0x1d607, 1, -120205), (0x1d608, 0x1d621, 1, -120231),
    (0x1d622, 0x1d63b, 1, -120257), (0x1d63c, 0x1d655, 1, -120283),
    (0x1d656, 0x1d66f, 1, -120309), (0x1d670, 0x1d689, 1, -120335),
    (0x1d68a, 0x1d6a3, 1, -120361), (0x1d6a8, 0x1d6b8, 1, -119543),
    (0x1d6ba, 0x1d6c0, 1, -119543), (0x1d6c2, 0x1d6d2, 1, -119569),
    (0x1d6d4, 0x1d6da, 1, -119569), (0x1d6e2, 0x1d6f2, 1, -119601),
    (0x1d6f4, 0x1d6fa, 1, -119601), (0x1d6fc, 0x1d70c, 1, -119627),
    (0x1d70e, 0x1d714, 1, -119627), (0x1d71c, 0x1d72c, 1, -119659),
    (0x1d72e, 0x1d734, 1, -119659), (0x1d736, 0x1d746, 1, -119685),
    (0x1d748, 0x1d74e, 1, -119685), (0x1d756, 0x1d766, 1, -119717),
    (0x1d768, 0x1d76e, 1, -119717), (0x1d770, 0x1d780, 1, -119743),
    (0x1d782, 0x1d788, 1, -119743), (0x1d790, 0x1d7a0, 1, -119775),
    (0x1d7a2, 0x1d7a8, 1, -119775), (0x1d7aa, 0x1d7ba, 1, -119801),
    (0x1d7bc, 0x1d7c2, 1, -119801), (0x1d7ce, 0x1d7d7, 1, -120734),
    (0x1d7d8, 0x1d7e1, 1, -120744), (0x1d7e2, 0x1d7eb, 1, -120754),
    (0x1d7ec, 0x1d7f5, 1, -120764), (0x1d7f6, 0x1d7ff, 1, -120774),
    (0x1e030, 0x1e038, 1, -121856), (0x1e03c, 0x1e046, 1, -121854),
    (0x1e051, 0x1e059, 1, -121889), (0x1e05f, 0x1e064, 1, -121884),
    (0x1e900, 0x1e921, 1, 34), (0x1ee0a, 0x1ee0d, 1, -124871),
    (0x1ee2a, 0x1ee2d, 1, -124903), (0x1f130, 0x1f149, 1, -127183),
    (0x1fbf0, 0x1fbf9, 1, -129984)]

/-- Characters that are replaced otherwise, as pieces between semicolons in ascending order.
A piece has the first character and, after a colon, the replacements of this character and
the ones that follow it: characters joined by points, or a hyphen where the character is not
replaced.  All characters are numbers in hexadecimal digits. -/
def replacedText : List String :=
  [
    "a0: 20; a8: 20.308 - 61",
    "af: 20.304 - - 32 33 20.301 3bc - - 20.327 31 6f - 31.2044.34 31.2044.32 33.2044.34",
    "130: 69.307 - 69.6a 69.6a 135 - 137 - - 13a - 13c - 13e - 6c.b7 6c.b7; 149: 2bc.6e",
    "178: ff 17a - 17c - 17e - 73 - 253 183 - 185 - 254 188 - 256 257 18c - - 1dd 259 25b 192",
    "193: 260 263 - 269 268 199",
    "19c: 26f 272 - 275 1a1 - 1a3 - 1a5 - 280 1a8 - 283 - - 1ad - 288 1b0 - 28a 28b 1b4 - 1b6",
    "1b7: 292 1b9; 1bc: 1bd; 1c4: 64.17e 64.17e 64.17e 6c.6a 6c.6a 6c.6a 6e.6a 6e.6a 6e.6a",
    "1f1: 64.7a 64.7a 64.7a 1f5 - 195 1bf; 220: 19e",
    "23a: 2c65 23c - 19a 2c66 - - 242 - 180 289 28c; 2b0: 68 266 6a 72 279 27b 281 77 79",
    "2d8: 20.306 20.307 20.30a 20.328 20.303 20.30b - - 263 6c 73 78 295",
    "340: 300 301 - 313 308.301 3b9; 370: 371 - 373 - 2b9 - 377; 37a: 20.3b9; 37e: 3b 3f3",
    "384: 20.301 20.308.301 3ac b7 3ad 3ae 3af - 3cc - 3cd 3ce",
    "3cf: 3d7 3b2 3b8 3c5 3cd 3cb 3c6 3c0",
    "3f0: 3ba 3c1 3c3 - 3b8 3b5 - 3f8 - 3c3 3fb - - 37b 37c 37d; 4c0: 4cf; 587: 565.582",
    "675: 627.674 648.674 6c7.674 64a.674",
    "958: 915.93c 916.93c 917.93c 91c.93c 921.93c 922.93c 92b.93c 92f.93c",
    "9dc: 9a1.9bc 9a2.9bc - 9af.9bc; a33: a32.a3c - - a38.a3c",
    "a59: a16.a3c a17.a3c a1c.a3c - - a2b.a3c; b5c: b21.b3c b22.b3c; e33: e4d.e32; eb3: ecd.eb2",
    "edc: eab.e99 eab.ea1; f0c: f0b; f43: f42.fb7; f4d: f4c.fb7; f52: f51.fb7; f57: f56.fb7",
    "f5c: f5b.fb7; f69: f40.fb5; f73: f71.f72 - f71.f74 fb2.f80 fb2.f71.f80 fb3.f80 fb3.f71.f80",
    "f81: f71.f80; f93: f92.fb7; f9d: f9c.fb7; fa2: fa1.fb7; fa7: fa6.fb7; fac: fab.fb7",
    "fb9: f90.fb5; 10c7: 2d27; 10cd: 2d2d; 10fc: 10dc",
    "1c80: 432 434 43e 441 442 442 44a 463 a64b 1c8a; 1cbd: 10fd 10fe 10ff",
    "1d2c: 61 e6 62 - 64 - 1dd",
    "1d3c: 6f 223 70 72 74 75 77 61 250 251 1d02 62 64 65 259 25b 25c 67 - 6b 6d 14b 6f 254",
    "1d54: 1d16 1d17 70 74 75 1d1d 26f 76 1d25 3b2 3b3 3b4 3c6 3c7 69 72 75 76 3b2 3b3 3c1 3c6",
    "1d6a: 3c7; 1d78: 43d",
    "1d9b: 252 63 255 f0 25c 66 25f 261 265 268 269 26a 1d7b 29d 26d 1d85 29f 271 270",
    "1db2: 278 282 283 1ab 289 28a 1d1c 28b 28c 7a 290 291 292 3b8; 1e9a: 61.2be 1e61 - - df",
    "1f71: 3ac - 3ad - 3ae - 3af - 3cc - 3cd - 3ce - - 1f00.3b9 1f01.3b9 1f02.3b9 1f03.3b9",
    "1f84: 1f04.3b9 1f05.3b9 1f06.3b9 1f07.3b9 1f00.3b9 1f01.3b9 1f02.3b9 1f03.3b9 1f04.3b9",
    "1f8d: 1f05.3b9 1f06.3b9 1f07.3b9 1f20.3b9 1f21.3b9 1f22.3b9 1f23.3b9 1f24.3b9 1f25.3b9",
    "1f96: 1f26.3b9 1f27.3b9 1f20.3b9 1f21.3b9 1f22.3b9 1f23.3b9 1f24.3b9 1f25.3b9 1f26.3b9",
    "1f9f: 1f27.3b9 1f60.3b9 1f61.3b9 1f62.3b9 1f63.3b9 1f64.3b9 1f65.3b9 1f66.3b9 1f67.3b9",
    "1fa8: 1f60.3b9 1f61.3b9 1f62.3b9 1f63.3b9 1f64.3b9 1f65.3b9 1f66.3b9 1f67.3b9 - - 1f70.3b9",
    "1fb3: 3b1.3b9 3ac.3b9 - - 1fb6.3b9 1fb0 1fb1 1f70 3ac 3b1.3b9 20.313 3b9 20.313 20.342",
    "1fc1: 20.308.342 1f74.3b9 3b7.3b9 3ae.3b9 - - 1fc6.3b9 1f72 3ad 1f74 3ae 3b7.3b9",
    "1fcd: 20.313.300 20.313.301 20.313.342; 1fd3: 390",
    "1fd8: 1fd0 1fd1 1f76 3af - 20.314.300 20.314.301 20.314.342; 1fe3: 3b0",
    "1fe8: 1fe0 1fe1 1f7a 3cd 1fe5 20.308.300 20.308.301 60 - - 1f7c.3b9 3c9.3b9 3ce.3b9",
    "1ff7: 1ff6.3b9 1f78 3cc 1f7c 3ce 3c9.3b9 20.301 20.314 - 20 20 20 20 20 20 20 20 20 20 20",
    "2011: 2010; 2017: 20.333; 202f: 20",
    "2033: 2032.2032 2032.2032.2032 - 2035.2035 2035.2035.2035; 203c: 21.21 - 20.305",
    "2047: 3f.3f 3f.21 21.3f; 2057: 2032.2032.2032.2032; 205f: 20; 2070: 30 69",
    "207a: 2b 2212 3d 28 29 6e; 208a: 2b 2212 3d 28 29 - 61 65 6f 78 259 68",
    "209a: 70 73 74 77 79 7a; 20a8: 72.73",
    "2100: 61.2f.63 61.2f.73 63 b0.63 - 63.2f.6f 63.2f.75 25b - b0.66 67 68 68 68 68 127 69 69",
    "2112: 6c 6c - 6e 6e.6f - - 70 71 72 72 72 - - 73.6d 74.65.6c 74.6d - 7a - 3c9 - 7a - 6b e5",
    "212c: 62 63 - 65 65 66 214e 6d 6f; 2139: 69 - 66.61.78 3c0 3b3 3b3 3c0 2211",
    "2145: 64 64 65 69 6a",
    "2150: 31.2044.37 31.2044.39 31.2044.31.30 31.2044.33 32.2044.33 31.2044.35 32.2044.35",
    "2157: 33.2044.35 34.2044.35 31.2044.36 35.2044.36 31.2044.38 33.2044.38 35.2044.38",
    "215e: 37.2044.38 31.2044 69 69.69 69.69.69 69.76 76 76.69 76.69.69 76.69.69.69 69.78 78",
    "216a: 78.69 78.69.69 6c 63 64 6d 69 69.69 69.69.69 69.76 76 76.69 76.69.69 76.69.69.69",
    "2178: 69.78 78 78.69 78.69.69 6c 63 64 6d; 2183: 2184; 2189: 30.2044.33",
    "222c: 222b.222b 222b.222b.222b - 222e.222e 222e.222e.222e; 2329: 3008 3009",
    "2469: 31.30 31.31 31.32 31.33 31.34 31.35 31.36 31.37 31.38 31.39 32.30 28.31.29 28.32.29",
    "2476: 28.33.29 28.34.29 28.35.29 28.36.29 28.37.29 28.38.29 28.39.29 28.31.30.29",
    "247e: 28.31.31.29 28.31.32.29 28.31.33.29 28.31.34.29 28.31.35.29 28.31.36.29 28.31.37.29",
    "2485: 28.31.38.29 28.31.39.29 28.32.30.29",
    "249c: 28.61.29 28.62.29 28.63.29 28.64.29 28.65.29 28.66.29 28.67.29 28.68.29 28.69.29",
    "24a5: 28.6a.29 28.6b.29 28.6c.29 28.6d.29 28.6e.29 28.6f.29 28.70.29 28.71.29 28.72.29",
    "24ae: 28.73.29 28.74.29 28.75.29 28.76.29 28.77.29 28.78.29 28.79.29 28.7a.29; 24ea: 30",
    "2a0c: 222b.222b.222b.222b; 2a74: 3a.3a.3d 3d.3d 3d.3d.3d; 2adc: 2add.338",
    "2c60: 2c61 - 26b 1d7d 27d - - 2c68 - 2c6a - 2c6c - 251 271 250 252 - 2c73 - - 2c76",
    "2c7c: 6a 76 23f 240; 2ceb: 2cec - 2cee; 2cf2: 2cf3; 2d6f: 2d61; 2e9f: 6bcd; 2ef3: 9f9f",
    "2f00: 4e00 4e28 4e36 4e3f 4e59 4e85 4e8c 4ea0 4eba 513f 5165 516b 5182 5196 51ab 51e0 51f5",
    "2f11: 5200 529b 52f9 5315 531a 5338 5341 535c 5369 5382 53b6 53c8 53e3 56d7 571f 58eb 5902",
    "2f22: 590a 5915 5927 5973 5b50 5b80 5bf8 5c0f 5c22 5c38 5c6e 5c71 5ddb 5de5 5df1 5dfe 5e72",
    "2f33: 5e7a 5e7f 5ef4 5efe 5f0b 5f13 5f50 5f61 5f73 5fc3 6208 6236 624b 652f 6534 6587 6597",
    "2f44: 65a4 65b9 65e0 65e5 66f0 6708 6728 6b20 6b62 6b79 6bb3 6bcb 6bd4 6bdb 6c0f 6c14 6c34",
    "2f55: 706b 722a 7236 723b 723f 7247 7259 725b 72ac 7384 7389 74dc 74e6 7518 751f 7528 7530",
    "2f66: 758b 7592 7676 767d 76ae 76bf 76ee 77db 77e2 77f3 793a 79b8 79be 7a74 7acb 7af9 7c73",
    "2f77: 7cf8 7f36 7f51 7f8a 7fbd 8001 800c 8012 8033 807f 8089 81e3 81ea 81f3 81fc 820c 821b",
    "2f88: 821f 826e 8272 8278 864d 866b 8840 884c 8863 897e 898b 89d2 8a00 8c37 8c46 8c55 8c78",
    "2f99: 8c9d 8d64 8d70 8db3 8eab 8eca 8f9b 8fb0 8fb5 9091 9149 91c6 91cc 91d1 9577 9580 961c",
    "2faa: 96b6 96b9 96e8 9751 975e 9762 9769 97cb 97ed 97f3 9801 98a8 98db 98df 9996 9999 99ac",
    "2fbb: 9aa8 9ad8 9adf 9b25 9b2f 9b32 9b3c 9b5a 9ce5 9e75 9e7f 9ea5 9ebb 9ec3 9ecd 9ed1 9ef9",
    "2fcc: 9efd 9f0e 9f13 9f20 9f3b 9f4a 9f52 9f8d 9f9c 9fa0; 3000: 20 - 2e",
    "3036: 3012 - 5341 5344 5345; 309b: 20.3099 20.309a - - 3088.308a; 30ff: 30b3.30c8",
    "3131: 1100 1101 11aa 1102 11ac 11ad 1103 1104 1105; 3140: 111a 1106 1107 1108 1121",
    "3165: 1114 1115 11c7 11c8 11cc 11ce 11d3 11d7 11d9 111c 11dd 11df 111d 111e 1120 1122 1123",
    "3176: 1127 1129",
    "317d: 1132 1136 1140 1147 114c 11f1 11f2 1157 1158 1159 1184 1185 1188 1191 1192 1194 119e",
    "318e: 11a1; 3192: 4e00 4e8c 4e09 56db 4e0a 4e2d 4e0b 7532 4e59 4e19 4e01 5929 5730 4eba",
    "3200: 28.1100.29 28.1102.29 28.1103.29 28.1105.29 28.1106.29 28.1107.29 28.1109.29",
    "3207: 28.110b.29 28.110c.29 28.110e.29 28.110f.29 28.1110.29 28.1111.29 28.1112.29",
    "320e: 28.ac00.29 28.b098.29 28.b2e4.29 28.b77c.29 28.b9c8.29 28.bc14.29 28.c0ac.29",
    "3215: 28.c544.29 28.c790.29 28.cc28.29 28.ce74.29 28.d0c0.29 28.d30c.29 28.d558.29",
    "321c: 28.c8fc.29 28.c624.c804.29 28.c624.d6c4.29 - 28.4e00.29 28.4e8c.29 28.4e09.29",
    "3223: 28.56db.29 28.4e94.29 28.516d.29 28.4e03.29 28.516b.29 28.4e5d.29 28.5341.29",
    "322a: 28.6708.29 28.706b.29 28.6c34.29 28.6728.29 28.91d1.29 28.571f.29 28.65e5.29",
    "3231: 28.682a.29 28.6709.29 28.793e.29 28.540d.29 28.7279.29 28.8ca1.29 28.795d.29",
    "3238: 28.52b4.29 28.4ee3.29 28.547c.29 28.5b66.29 28.76e3.29 28.4f01.29 28.8cc7.29",
    "323f: 28.5354.29 28.796d.29 28.4f11.29 28.81ea.29 28.81f3.29 554f 5e7c 6587 7b8f",
    "3250: 70.74.65 32.31 32.32 32.33 32.34 32.35 32.36 32.37 32.38 32.39 33.30 33.31 33.32",
    "325d: 33.33 33.34 33.35 1100 1102 1103 1105 1106 1107 1109 110b 110c",
    "326e: ac00 b098 b2e4 b77c b9c8 bc14 c0ac c544 c790 cc28 ce74 d0c0 d30c d558 cc38.ace0",
    "327d: c8fc.c758 c6b0 - 4e00 4e8c 4e09 56db 4e94 516d 4e03 516b 4e5d 5341 6708 706b 6c34",
    "328d: 6728 91d1 571f 65e5 682a 6709 793e 540d 7279 8ca1 795d 52b4 79d8 7537 5973 9069 512a",
    "329e: 5370 6ce8 9805 4f11 5199 6b63 4e0a 4e2d 4e0b 5de6 53f3 533b 5b97 5b66 76e3 4f01 8cc7",
    "32af: 5354 591c 33.36 33.37 33.38 33.39 34.30 34.31 34.32 34.33 34.34 34.35 34.36 34.37",
    "32bd: 34.38 34.39 35.30 31.6708 32.6708 33.6708 34.6708 35.6708 36.6708 37.6708 38.6708",
    "32c8: 39.6708 31.30.6708 31.31.6708 31.32.6708 68.67 65.72.67 65.76 6c.74.64 30a2 30a4",
    "32d2: 30a6 30a8 30aa 30ab 30ad 30af 30b1 30b3 30b5 30b7 30b9 30bb 30bd 30bf 30c1 30c4 30c6",
    "32e3: 30c8; 32ea: 30d2 30d5 30d8 30db; 32f3: 30e4 30e6",
    "32ff: 4ee4.548c 30a2.30d1.30fc.30c8 30a2.30eb.30d5.30a1 30a2.30f3.30da.30a2 30a2.30fc.30eb",
    "3304: 30a4.30cb.30f3.30b0 30a4.30f3.30c1 30a6.30a9.30f3 30a8.30b9.30af.30fc.30c9",
    "3308: 30a8.30fc.30ab.30fc 30aa.30f3.30b9 30aa.30fc.30e0 30ab.30a4.30ea 30ab.30e9.30c3.30c8",
    "330d: 30ab.30ed.30ea.30fc 30ac.30ed.30f3 30ac.30f3.30de 30ae.30ac 30ae.30cb.30fc",
    "3312: 30ad.30e5.30ea.30fc 30ae.30eb.30c0.30fc 30ad.30ed 30ad.30ed.30b0.30e9.30e0",
    "3316: 30ad.30ed.30e1.30fc.30c8.30eb 30ad.30ed.30ef.30c3.30c8 30b0.30e9.30e0",
    "3319: 30b0.30e9.30e0.30c8.30f3 30af.30eb.30bc.30a4.30ed 30af.30ed.30fc.30cd 30b1.30fc.30b9",
    "331d: 30b3.30eb.30ca 30b3.30fc.30dd 30b5.30a4.30af.30eb 30b5.30f3.30c1.30fc.30e0",
    "3321: 30b7.30ea.30f3.30b0 30bb.30f3.30c1 30bb.30f3.30c8 30c0.30fc.30b9 30c7.30b7 30c9.30eb",
    "3327: 30c8.30f3 30ca.30ce 30ce.30c3.30c8 30cf.30a4.30c4 30d1.30fc.30bb.30f3.30c8",
    "332c: 30d1.30fc.30c4 30d0.30fc.30ec.30eb 30d4.30a2.30b9.30c8.30eb 30d4.30af.30eb 30d4.30b3",
    "3331: 30d3.30eb 30d5.30a1.30e9.30c3.30c9 30d5.30a3.30fc.30c8 30d6.30c3.30b7.30a7.30eb",
    "3335: 30d5.30e9.30f3 30d8.30af.30bf.30fc.30eb 30da.30bd 30da.30cb.30d2 30d8.30eb.30c4",
    "333a: 30da.30f3.30b9 30da.30fc.30b8 30d9.30fc.30bf 30dd.30a4.30f3.30c8 30dc.30eb.30c8",
    "333f: 30db.30f3 30dd.30f3.30c9 30db.30fc.30eb 30db.30fc.30f3 30de.30a4.30af.30ed",
    "3344: 30de.30a4.30eb 30de.30c3.30cf 30de.30eb.30af 30de.30f3.30b7.30e7.30f3",
    "3348: 30df.30af.30ed.30f3 30df.30ea 30df.30ea.30d0.30fc.30eb 30e1.30ac 30e1.30ac.30c8.30f3",
    "334d: 30e1.30fc.30c8.30eb 30e4.30fc.30c9 30e4.30fc.30eb 30e6.30a2.30f3 30ea.30c3.30c8.30eb",
    "3352: 30ea.30e9 30eb.30d4.30fc 30eb.30fc.30d6.30eb 30ec.30e0 30ec.30f3.30c8.30b2.30f3",
    "3357: 30ef.30c3.30c8 30.70b9 31.70b9 32.70b9 33.70b9 34.70b9 35.70b9 36.70b9 37.70b9",
    "3360: 38.70b9 39.70b9 31.30.70b9 31.31.70b9 31.32.70b9 31.33.70b9 31.34.70b9 31.35.70b9",
    "3368: 31.36.70b9 31.37.70b9 31.38.70b9 31.39.70b9 32.30.70b9 32.31.70b9 32.32.70b9",
    "336f: 32.33.70b9 32.34.70b9 68.70.61 64.61 61.75 62.61.72 6f.76 70.63 64.6d 64.6d.32",
    "3379: 64.6d.33 69.75 5e73.6210 662d.548c 5927.6b63 660e.6cbb 682a.5f0f.4f1a.793e 70.61",
    "3381: 6e.61 3bc.61 6d.61 6b.61 6b.62 6d.62 67.62 63.61.6c 6b.63.61.6c 70.66 6e.66 3bc.66",
    "338d: 3bc.67 6d.67 6b.67 68.7a 6b.68.7a 6d.68.7a 67.68.7a 74.68.7a 3bc.6c 6d.6c 64.6c",
    "3398: 6b.6c 66.6d 6e.6d 3bc.6d 6d.6d 63.6d 6b.6d 6d.6d.32 63.6d.32 6d.32 6b.6d.32 6d.6d.33",
    "33a4: 63.6d.33 6d.33 6b.6d.33 6d.2215.73 6d.2215.73.32 70.61 6b.70.61 6d.70.61 67.70.61",
    "33ad: 72.61.64 72.61.64.2215.73 72.61.64.2215.73.32 70.73 6e.73 3bc.73 6d.73 70.76 6e.76",
    "33b6: 3bc.76 6d.76 6b.76 6d.76 70.77 6e.77 3bc.77 6d.77 6b.77 6d.77 6b.3c9 6d.3c9 - 62.71",
    "33c4: 63.63 63.64 63.2215.6b.67 - 64.62 67.79 68.61 68.70 69.6e 6b.6b 6b.6d 6b.74 6c.6d",
    "33d1: 6c.6e 6c.6f.67 6c.78 6d.62 6d.69.6c 6d.6f.6c 70.68 - 70.70.6d 70.72 73.72 73.76",
    "33dd: 77.62 76.2215.6d 61.2215.6d 31.65e5 32.65e5 33.65e5 34.65e5 35.65e5 36.65e5 37.65e5",
    "33e7: 38.65e5 39.65e5 31.30.65e5 31.31.65e5 31.32.65e5 31.33.65e5 31.34.65e5 31.35.65e5",
    "33ef: 31.36.65e5 31.37.65e5 31.38.65e5 31.39.65e5 32.30.65e5 32.31.65e5 32.32.65e5",
    "33f6: 32.33.65e5 32.34.65e5 32.35.65e5 32.36.65e5 32.37.65e5 32.38.65e5 32.39.65e5",
    "33fd: 33.30.65e5 33.31.65e5 67.61.6c; a69c: 44a 44c; a770: a76f; a779: a77a - a77c - 1d79",
    "a78b: a78c - 265 - - a791 - a793; a7aa: 266 25c 261 26c 26a - 29e 287 29d ab53",
    "a7c4: a794 282 1d8e a7c8 - a7ca - 264; a7dc: 19b; a7f1: 73 63 66 71 a7f6 - - 127 153",
    "ab5c: a727 ab37 26b ab52; ab69: 28d",
    "f900: 8c48 66f4 8eca 8cc8 6ed1 4e32 53e5 9f9c 9f9c 5951 91d1 5587 5948 61f6 7669 7f85 863f",
    "f911: 87ba 88f8 908f 6a02 6d1b 70d9 73de 843d 916a 99f1 4e82 5375 6b04 721b 862d 9e1e 5d50",
    "f922: 6feb 85cd 8964 62c9 81d8 881f 5eca 6717 6d6a 72fc 90ce 4f86 51b7 52de 64c4 6ad3 7210",
    "f933: 76e7 8001 8606 865c 8def 9732 9b6f 9dfa 788c 797f 7da0 83c9 9304 9e7f 8ad6 58df 5f04",
    "f944: 7c60 807e 7262 78ca 8cc2 96f7 58d8 5c62 6a13 6dda 6f0f 7d2f 7e37 964b 52d2 808b 51dc",
    "f955: 51cc 7a1c 7dbe 83f1 9675 8b80 62cf 6a02 8afe 4e39 5be7 6012 7387 7570 5317 78fb 4fbf",
    "f966: 5fa9 4e0d 6ccc 6578 7d22 53c3 585e 7701 8449 8aaa 6bba 8fb0 6c88 62fe 82e5 63a0 7565",
    "f977: 4eae 5169 51c9 6881 7ce7 826f 8ad2 91cf 52f5 5442 5973 5eec 65c5 6ffe 792a 95ad 9a6a",
    "f988: 9e97 9ece 529b 66c6 6b77 8f62 5e74 6190 6200 649a 6f23 7149 7489 79ca 7df4 806f 8f26",
    "f999: 84ee 9023 934a 5217 52a3 54bd 70c8 88c2 8aaa 5ec9 5ff5 637b 6bae 7c3e 7375 4ee4 56f9",
    "f9aa: 5be7 5dba 601c 73b2 7469 7f9a 8046 9234 96f6 9748 9818 4f8b 79ae 91b4 96b8 60e1 4e86",
    "f9bb: 50da 5bee 5c3f 6599 6a02 71ce 7642 84fc 907c 9f8d 6688 962e 5289 677b 67f3 6d41 6e9c",
    "f9cc: 7409 7559 786b 7d10 985e 516d 622e 9678 502b 5d19 6dea 8f2a 5f8b 6144 6817 7387 9686",
    "f9dd: 5229 540f 5c65 6613 674e 68a8 6ce5 7406 75e2 7f79 88cf 88e1 91cc 96e2 533f 6eba 541d",
    "f9ee: 71d0 7498 85fa 96a3 9c57 9e9f 6797 6dcb 81e8 7acb 7b20 7c92 72c0 7099 8b58 4ec0 8336",
    "f9ff: 523a 5207 5ea6 62d3 7cd6 5b85 6d1e 66b4 8f3b 884c 964d 898b 5ed3 5140 55c0 - - 585a",
    "fa12: 6674 - - 51de 732a 76ca 793c 795e 7965 798f 9756 7cbe 7fbd - 8612 - 8af8 - - 9038",
    "fa26: 90fd",
    "fa2a: 98ef 98fc 9928 9db4 90de 96b7 4fae 50e7 514d 52c9 52e4 5351 559d 5606 5668 5840 58a8",
    "fa3b: 5c64 5c6e 6094 6168 618e 61f2 654f 65e2 6691 6885 6d77 6e1a 6f22 716e 722b 7422 7891",
    "fa4c: 793e 7949 7948 7950 7956 795d 798d 798e 7a40 7a81 7bc0 7df4 7e09 7e41 7f72 8005 81ed",
    "fa5d: 8279 8279 8457 8910 8996 8b01 8b39 8cd3 8d08 8fb6 9038 96e3 97ff 983b 6075 242ee",
    "fa6d: 8218 - - 4e26 51b5 5168 4f80 5145 5180 52c7 52fa 559d 5555 5599 55e2 585a 58b3 5944",
    "fa7f: 5954 5a62 5b28 5ed2 5ed9 5f69 5fad 60d8 614e 6108 618e 6160 61f2 6234 63c4 641c 6452",
    "fa90: 6556 6674 6717 671b 6756 6b79 6bba 6d41 6edb 6ecb 6f22 701e 716e 77a7 7235 72af 732a",
    "faa1: 7471 7506 753b 761d 761f 76ca 76db 76f4 774a 7740 78cc 7ab1 7bc0 7c7b 7d5b 7df4 7f3e",
    "fab2: 8005 8352 83ef 8779 8941 8986 8996 8abf 8af8 8acb 8b01 8afe 8aed 8b39 8b8a 8d08 8f38",
    "fac3: 9072 9199 9276 967c 96e3 9756 97db 97ff 980b 983b 9b12 9f9c 2284a 22844 233d5 3b9d",
    "fad3: 4018 4039 25249 25cd0 27ed3 9f43 9f8e",
    "fb00: 66.66 66.69 66.6c 66.66.69 66.66.6c 73.74 73.74",
    "fb13: 574.576 574.565 574.56b 57e.576 574.56d",
    "fb1d: 5d9.5b4 - 5f2.5b7 5e2 5d0 5d3 5d4 5db 5dc 5dd 5e8 5ea 2b 5e9.5c1 5e9.5c2 5e9.5bc.5c1",
    "fb2d: 5e9.5bc.5c2 5d0.5b7 5d0.5b8 5d0.5bc 5d1.5bc 5d2.5bc 5d3.5bc 5d4.5bc 5d5.5bc 5d6.5bc",
    "fb38: 5d8.5bc 5d9.5bc 5da.5bc 5db.5bc 5dc.5bc - 5de.5bc - 5e0.5bc 5e1.5bc - 5e3.5bc",
    "fb44: 5e4.5bc - 5e6.5bc 5e7.5bc 5e8.5bc 5e9.5bc 5ea.5bc 5d5.5b9 5d1.5bf 5db.5bf 5e4.5bf",
    "fb4f: 5d0.5dc 671 671 67b 67b 67b 67b 67e 67e 67e 67e 680 680 680 680 67a 67a 67a 67a 67f",
    "fb63: 67f 67f 67f 679 679 679 679 6a4 6a4 6a4 6a4 6a6 6a6 6a6 6a6 684 684 684 684 683 683",
    "fb78: 683 683 686 686 686 686 687 687 687 687 68d 68d 68c 68c 68e 68e 688 688 698 698 691",
    "fb8d: 691 6a9 6a9 6a9 6a9 6af 6af 6af 6af 6b3 6b3 6b3 6b3 6b1 6b1 6b1 6b1 6ba 6ba 6bb 6bb",
    "fba2: 6bb 6bb 6c0 6c0 6c1 6c1 6c1 6c1 6be 6be 6be 6be 6d2 6d2 6d3 6d3",
    "fbd3: 6ad 6ad 6ad 6ad 6c7 6c7 6c6 6c6 6c8 6c8 6c7.674 6cb 6cb 6c5 6c5 6c9 6c9 6d0 6d0 6d0",
    "fbe7: 6d0 649 649 626.627 626.627 626.6d5 626.6d5 626.648 626.648 626.6c7 626.6c7 626.6c6",
    "fbf3: 626.6c6 626.6c8 626.6c8 626.6d0 626.6d0 626.6d0 626.649 626.649 626.649 6cc 6cc 6cc",
    "fbff: 6cc 626.62c 626.62d 626.645 626.649 626.64a 628.62c 628.62d 628.62e 628.645 628.649",
    "fc0a: 628.64a 62a.62c 62a.62d 62a.62e 62a.645 62a.649 62a.64a 62b.62c 62b.645 62b.649",
    "fc14: 62b.64a 62c.62d 62c.645 62d.62c 62d.645 62e.62c 62e.62d 62e.645 633.62c 633.62d",
    "fc1e: 633.62e 633.645 635.62d 635.645 636.62c 636.62d 636.62e 636.645 637.62d 637.645",
    "fc28: 638.645 639.62c 639.645 63a.62c 63a.645 641.62c 641.62d 641.62e 641.645 641.649",
    "fc32: 641.64a 642.62d 642.645 642.649 642.64a 643.627 643.62c 643.62d 643.62e 643.644",
    "fc3c: 643.645 643.649 643.64a 644.62c 644.62d 644.62e 644.645 644.649 644.64a 645.62c",
    "fc46: 645.62d 645.62e 645.645 645.649 645.64a 646.62c 646.62d 646.62e 646.645 646.649",
    "fc50: 646.64a 647.62c 647.645 647.649 647.64a 64a.62c 64a.62d 64a.62e 64a.645 64a.649",
    "fc5a: 64a.64a 630.670 631.670 649.670 20.64c.651 20.64d.651 20.64e.651 20.64f.651",
    "fc62: 20.650.651 20.651.670 626.631 626.632 626.645 626.646 626.649 626.64a 628.631",
    "fc6b: 628.632 628.645 628.646 628.649 628.64a 62a.631 62a.632 62a.645 62a.646 62a.649",
    "fc75: 62a.64a 62b.631 62b.632 62b.645 62b.646 62b.649 62b.64a 641.649 641.64a 642.649",
    "fc7f: 642.64a 643.627 643.644 643.645 643.649 643.64a 644.645 644.649 644.64a 645.627",
    "fc89: 645.645 646.631 646.632 646.645 646.646 646.649 646.64a 649.670 64a.631 64a.632",
    "fc93: 64a.645 64a.646 64a.649 64a.64a 626.62c 626.62d 626.62e 626.645 626.647 628.62c",
    "fc9d: 628.62d 628.62e 628.645 628.647 62a.62c 62a.62d 62a.62e 62a.645 62a.647 62b.645",
    "fca7: 62c.62d 62c.645 62d.62c 62d.645 62e.62c 62e.645 633.62c 633.62d 633.62e 633.645",
    "fcb1: 635.62d 635.62e 635.645 636.62c 636.62d 636.62e 636.645 637.62d 638.645 639.62c",
    "fcbb: 639.645 63a.62c 63a.645 641.62c 641.62d 641.62e 641.645 642.62d 642.645 643.62c",
    "fcc5: 643.62d 643.62e 643.644 643.645 644.62c 644.62d 644.62e 644.645 644.647 645.62c",
    "fccf: 645.62d 645.62e 645.645 646.62c 646.62d 646.62e 646.645 646.647 647.62c 647.645",
    "fcd9: 647.670 64a.62c 64a.62d 64a.62e 64a.645 64a.647 626.645 626.647 628.645 628.647",
    "fce3: 62a.645 62a.647 62b.645 62b.647 633.645 633.647 634.645 634.647 643.644 643.645",
    "fced: 644.645 646.645 646.647 64a.645 64a.647 640.64e.651 640.64f.651 640.650.651 637.649",
    "fcf6: 637.64a 639.649 639.64a 63a.649 63a.64a 633.649 633.64a 634.649 634.64a 62d.649",
    "fd00: 62d.64a 62c.649 62c.64a 62e.649 62e.64a 635.649 635.64a 636.649 636.64a 634.62c",
    "fd0a: 634.62d 634.62e 634.645 634.631 633.631 635.631 636.631 637.649 637.64a 639.649",
    "fd14: 639.64a 63a.649 63a.64a 633.649 633.64a 634.649 634.64a 62d.649 62d.64a 62c.649",
    "fd1e: 62c.64a 62e.649 62e.64a 635.649 635.64a 636.649 636.64a 634.62c 634.62d 634.62e",
    "fd28: 634.645 634.631 633.631 635.631 636.631 634.62c 634.62d 634.62e 634.645 633.647",
    "fd32: 634.647 637.645 633.62c 633.62d 633.62e 634.62c 634.62d 634.62e 637.645 638.645",
    "fd3c: 627.64b 627.64b",
    "fd50: 62a.62c.645 62a.62d.62c 62a.62d.62c 62a.62d.645 62a.62e.645 62a.645.62c 62a.645.62d",
    "fd57: 62a.645.62e 62c.645.62d 62c.645.62d 62d.645.64a 62d.645.649 633.62d.62c 633.62c.62d",
    "fd5e: 633.62c.649 633.645.62d 633.645.62d 633.645.62c 633.645.645 633.645.645 635.62d.62d",
    "fd65: 635.62d.62d 635.645.645 634.62d.645 634.62d.645 634.62c.64a 634.645.62e 634.645.62e",
    "fd6c: 634.645.645 634.645.645 636.62d.649 636.62e.645 636.62e.645 637.645.62d 637.645.62d",
    "fd73: 637.645.645 637.645.64a 639.62c.645 639.645.645 639.645.645 639.645.649 63a.645.645",
    "fd7a: 63a.645.64a 63a.645.649 641.62e.645 641.62e.645 642.645.62d 642.645.645 644.62d.645",
    "fd81: 644.62d.64a 644.62d.649 644.62c.62c 644.62c.62c 644.62e.645 644.62e.645 644.645.62d",
    "fd88: 644.645.62d 645.62d.62c 645.62d.645 645.62d.64a 645.62c.62d 645.62c.645 645.62e.62c",
    "fd8f: 645.62e.645 - - 645.62c.62e 647.645.62c 647.645.645 646.62d.645 646.62d.649",
    "fd97: 646.62c.645 646.62c.645 646.62c.649 646.645.64a 646.645.649 64a.645.645 64a.645.645",
    "fd9e: 628.62e.64a 62a.62c.64a 62a.62c.649 62a.62e.64a 62a.62e.649 62a.645.64a 62a.645.649",
    "fda5: 62c.645.64a 62c.62d.649 62c.645.649 633.62e.649 635.62d.64a 634.62d.64a 636.62d.64a",
    "fdac: 644.62c.64a 644.645.64a 64a.62d.64a 64a.62c.64a 64a.645.64a 645.645.64a 642.645.64a",
    "fdb3: 646.62d.64a 642.645.62d 644.62d.645 639.645.64a 643.645.64a 646.62c.62d 645.62e.64a",
    "fdba: 644.62c.645 643.645.645 644.62c.645 646.62c.62d 62c.62d.64a 62d.62c.64a 645.62c.64a",
    "fdc1: 641.645.64a 628.62d.64a 643.645.645 639.62c.645 635.645.645 633.62e.64a 646.62c.64a",
    "fdf0: 635.644.6d2 642.644.6d2 627.644.644.647 627.643.628.631 645.62d.645.62f",
    "fdf5: 635.644.639.645 631.633.648.644 639.644.64a.647 648.633.644.645 635.644.649",
    "fdfa: 635.644.649.20.627.644.644.647.20.639.644.64a.647.20.648.633.644.645",
    "fdfb: 62c.644.20.62c.644.627.644.647 631.6cc.627.644",
    "fe10: 2c 3001 - 3a 3b 21 3f 3016 3017",
    "fe31: 2014 2013 5f 5f 28 29 7b 7d 3014 3015 3010 3011 300a 300b 3008 3009",
    "fe47: 5b 5d 20.305 20.305 20.305 20.305 5f 5f 5f 2c 3001 - - 3b 3a 3f 21 2014 28 29 7b 7d",
    "fe5d: 3014 3015 23 26 2a 2b 2d 3c 3e 3d - 5c 24 25 40",
    "fe70: 20.64b 640.64b 20.64c - 20.64d - 20.64e 640.64e 20.64f 640.64f 20.650 640.650 20.651",
    "fe7d: 640.651 20.652 640.652 621 622 622 623 623 624 624 625 625 626 626 626 626 627 627",
    "fe8f: 628 628 628 628 629 629 62a 62a 62a 62a 62b 62b 62b 62b 62c 62c 62c 62c 62d 62d 62d",
    "fea4: 62d 62e 62e 62e 62e 62f 62f 630 630 631 631 632 632 633 633 633 633 634 634 634 634",
    "feb9: 635 635 635 635 636 636 636 636 637 637 637 637 638 638 638 638 639 639 639 639 63a",
    "fece: 63a 63a 63a 641 641 641 641 642 642 642 642 643 643 643 643 644 644 644 644 645 645",
    "fee3: 645 645 646 646 646 646 647 647 647 647 648 648 649 649 64a 64a 64a 64a 644.622",
    "fef6: 644.622 644.623 644.623 644.625 644.625 644.627 644.627",
    "ff5f: 2985 2986 2e 300c 300d 3001 30fb 30f2 30a1 30a3 30a5 30a7 30a9 30e3 30e5 30e7 30c3",
    "ff70: 30fc 30a2 30a4 30a6 30a8 30aa 30ab 30ad 30af 30b1 30b3 30b5 30b7 30b9 30bb 30bd 30bf",
    "ff81: 30c1 30c4 30c6 30c8; ff8b: 30d2 30d5 30d8 30db; ff94: 30e4 30e6",
    "ff9c: 30ef 30f3 3099 309a - 1100 1101 11aa 1102 11ac 11ad 1103 1104 1105",
    "ffb0: 111a 1106 1107 1108 1121; ffda: 1173 1174 1175",
    "ffe0: a2 a3 ac 20.304 a6 a5 20a9 - 2502; ffed: 25a0 25cb; 10595: 105bc",
    "10781: 2d0 2d1 e6 299 253 - 2a3 ab66 2a5 2a4 256 257 1d91 258 25e 2a9 264 262 260 29b 127",
    "10796: 29c 267 284 2aa 2ab 26c 1df04 a78e 26e 1df05 28e 1df06 f8 276 277 71 27a 1df08 27d",
    "107a9: 27e 280 2a8 2a6 ab67 2a7 288 2c71 - 28f 2a1 2a2 298 1c0 1c1 1c2 1df0a 1df1e",
    "1d15e: 1d157.1d165 1d158.1d165 1d158.1d165.1d16e 1d158.1d165.1d16f 1d158.1d165.1d170",
    "1d163: 1d158.1d165.1d171 1d158.1d165.1d172",
    "1d1bb: 1d1b9.1d165 1d1ba.1d165 1d1b9.1d165.1d16e 1d1ba.1d165.1d16e 1d1b9.1d165.1d16f",
    "1d1c0: 1d1ba.1d165.1d16f; 1d49c: 61 - 63 64 - - 67 - - 6a 6b; 1d504: 61 62; 1d538: 61 62",
    "1d546: 6f; 1d6a4: 131 237; 1d6b9: 3b8; 1d6c1: 2207; 1d6d3: 3c3",
    "1d6db: 2202 3b5 3b8 3ba 3c6 3c1 3c0; 1d6f3: 3b8; 1d6fb: 2207; 1d70d: 3c3",
    "1d715: 2202 3b5 3b8 3ba 3c6 3c1 3c0; 1d72d: 3b8; 1d735: 2207; 1d747: 3c3",
    "1d74f: 2202 3b5 3b8 3ba 3c6 3c1 3c0; 1d767: 3b8; 1d76f: 2207; 1d781: 3c3",
    "1d789: 2202 3b5 3b8 3ba 3c6 3c1 3c0; 1d7a1: 3b8; 1d7a9: 2207; 1d7bb: 3c3",
    "1d7c3: 2202 3b5 3b8 3ba 3c6 3c1 3c0 3dd 3dd; 1e039: 43a 43b 43c",
    "1e047: 44b 44d 44e a689 4d9 456 458 4e9 4af 4cf; 1e05a: 43a 43b 43e 43f 441",
    "1e065: 44a 44b 491 456 455 45f 4ab a651 4b1; 1ee00: 627 628 62c 62f - 648 632 62d 637 64a",
    "1ee0e: 633 639 641 635 642 631 634 62a 62b 62e 630 636 638 63a 66e 6ba 6a1 66f - 628 62c",
    "1ee24: 647 - - 62d - 64a; 1ee2e: 633 639 641 635 642 - 634 62a 62b 62e - 636 - 63a",
    "1ee42: 62c",
    "1ee47: 62d - 64a - 644 - 646 633 639 - 635 642 - 634 - - 62e - 636 - 63a - 6ba - 66f - 628",
    "1ee62: 62c - 647 - - 62d 637 64a 643 - 645 646 633 639 641 635 642 - 634 62a 62b 62e - 636",
    "1ee7a: 638 63a 66e - 6a1 - 627 628 62c 62f 647 648 632 62d 637 64a - 644 645 646 633 639",
    "1ee90: 641 635 642 631 634 62a 62b 62e 630 636 638 63a",
    "1eea1: 628 62c 62f - 648 632 62d 637 64a - 644 645 646 633 639 641 635 642 631 634 62a 62b",
    "1eeb7: 62e 630 636 638 63a",
    "1f101: 30.2c 31.2c 32.2c 33.2c 34.2c 35.2c 36.2c 37.2c 38.2c 39.2c",
    "1f110: 28.61.29 28.62.29 28.63.29 28.64.29 28.65.29 28.66.29 28.67.29 28.68.29 28.69.29",
    "1f119: 28.6a.29 28.6b.29 28.6c.29 28.6d.29 28.6e.29 28.6f.29 28.70.29 28.71.29 28.72.29",
    "1f122: 28.73.29 28.74.29 28.75.29 28.76.29 28.77.29 28.78.29 28.79.29 28.7a.29",
    "1f12a: 3014.73.3015 63 72 63.64 77.7a; 1f14a: 68.76 6d.76 73.64 73.73 70.70.76 77.63",
    "1f16a: 6d.63 6d.64 6d.72; 1f190: 64.6a; 1f200: 307b.304b 30b3.30b3 30b5",
    "1f210: 624b 5b57 53cc 30c7 4e8c 591a 89e3 5929 4ea4 6620 7121 6599 524d 5f8c 518d 65b0",
    "1f220: 521d 7d42 751f 8ca9 58f0 5439 6f14 6295 6355 4e00 4e09 904a 5de6 4e2d 53f3 6307",
    "1f230: 8d70 6253 7981 7a7a 5408 6e80 6709 6708 7533 5272 55b6 914d",
    "1f240: 3014.672c.3015 3014.4e09.3015 3014.4e8c.3015 3014.5b89.3015 3014.70b9.3015",
    "1f245: 3014.6253.3015 3014.76d7.3015 3014.52dd.3015 3014.6557.3015; 1f250: 5f97 53ef",
    "2f800: 4e3d 4e38 4e41 20122 4f60 4fae 4fbb 5002 507a 5099 50e7 50cf 349e 2063a 514d 5154",
    "2f810: 5164 5177 2051c 34b9 5167 518d 2054b 5197 51a4 4ecc 51ac 51b5 291df 51f5 5203 34df",
    "2f820: 523b 5246 5272 5277 3515 52c7 52c9 52e4 52fa 5305 5306 5317 5349 5351 535a 5373",
    "2f830: 537d 537f 537f 537f 20a2c 7070 53ca 53df 20b63 53eb 53f1 5406 549e 5438 5448 5468",
    "2f840: 54a2 54f6 5510 5553 5563 5584 5584 5599 55ab 55b3 55c2 5716 5606 5717 5651 5674",
    "2f850: 5207 58ee 57ce 57f4 580d 578b 5832 5831 58ac 214e4 58f2 58f7 5906 591a 5922 5962",
    "2f860: 216a8 216ea 59ec 5a1b 5a27 59d8 5a66 36ee 36fc 5b08 5b3e 5b3e 219c8 5bc3 5bd8 5be7",
    "2f870: 5bf3 21b18 5bff 5c06 5f53 5c22 3781 5c60 5c6e 5cc0 5c8d 21de4 5d43 21de6 5d6e 5d6b",
    "2f880: 5d7c 5de1 5de2 382f 5dfd 5e28 5e3d 5e69 3862 22183 387c 5eb0 5eb3 5eb6 5eca 2a392",
    "2f890: 5efe 22331 22331 8201 5f22 5f22 38c7 232b8 261da 5f62 5f6b 38e3 5f9a 5fcd 5fd7 5ff9",
    "2f8a0: 6081 393a 391c 6094 226d4 60c7 6148 614c 614e 614c 617a 618e 61b2 61a4 61af 61de",
    "2f8b0: 61f2 61f6 6210 621b 625d 62b1 62d4 6350 22b0c 633d 62fc 6368 6383 63e4 22bf1 6422",
    "2f8c0: 63c5 63a9 3a2e 6469 647e 649d 6477 3a6c 654f 656c 2300a 65e3 66f8 6649 3b19 6691",
    "2f8d0: 3b08 3ae4 5192 5195 6700 669c 80ad 43d9 6717 671b 6721 675e 6753 233c3 3b49 67fa",
    "2f8e0: 6785 6852 6885 2346d 688e 681f 6914 3b9d 6942 69a3 69ea 6aa8 236a3 6adb 3c18 6b21",
    "2f8f0: 238a7 6b54 3c4e 6b72 6b9f 6bba 6bbb 23a8d 21d0b 23afa 6c4e 23cbc 6cbf 6ccd 6c67",
    "2f8ff: 6d16 6d3e 6d77 6d41 6d69 6d78 6d85 23d1e 6d34 6e2f 6e6e 3d33 6ecb 6ec7 23ed1 6df9",
    "2f90f: 6f6e 23f5e 23f8e 6fc6 7039 701e 701b 3d96 704a 707d 7077 70ad 20525 7145 24263 719c",
    "2f91f: 243ab 7228 7235 7250 24608 7280 7295 24735 24814 737a 738b 3eac 73a5 3eb8 3eb8 7447",
    "2f92f: 745c 7471 7485 74ca 3f1b 7524 24c36 753e 24c92 7570 2219f 7610 24fa1 24fb8 25044",
    "2f93e: 3ffc 4008 76f4 250f3 250f2 25119 25133 771e 771f 771f 774a 4039 778b 4046 4096",
    "2f94d: 2541d 784e 788c 78cc 40e3 25626 7956 2569a 256c5 798f 79eb 412f 7a40 7a4a 7a4f",
    "2f95c: 2597c 25aa7 25aa7 7aee 4202 25bab 7bc6 7bc9 4227 25c80 7cd2 42a0 7ce8 7ce3 7d00",
    "2f96b: 25f86 7d63 4301 7dc7 7e02 7e45 4334 26228 26247 4359 262d9 7f7a 2633e 7f95 7ffa",
    "2f97a: 8005 264da 26523 8060 265a8 8070 2335f 43d5 80b2 8103 440b 813e 5ab5 267a7 267b5",
    "2f989: 23393 2339c 8201 8204 8f9e 446b 8291 828b 829d 52b3 82b1 82b3 82bd 82e6 26b3c 82e5",
    "2f999: 831d 8363 83ad 8323 83bd 83e7 8457 8353 83ca 83cc 83dc 26c36 26d6b 26cd5 452b 84f1",
    "2f9a9: 84f3 8516 273ca 8564 26f2c 455d 4561 26fb1 270d2 456b 8650 865c 8667 8669 86a9 8688",
    "2f9b9: 870e 86e2 8779 8728 876b 8786 45d7 87e1 8801 45f9 8860 8863 27667 88d7 88de 4635",
    "2f9c9: 88fa 34bb 278ae 27966 46be 46c7 8aa0 8aed 8b8a 8c55 27ca8 8cab 8cc1 8d1b 8d77 27f2f",
    "2f9d9: 20804 8dcb 8dbc 8df0 208de 8ed4 8f38 285d2 285ed 9094 90f1 9111 2872e 911b 9238",
    "2f9e8: 92d7 92d8 927c 93f9 9415 28bfa 958b 4995 95b7 28d77 49e6 96c3 5db2 9723 29145 2921a",
    "2f9f8: 4a6e 4a76 97e0 2940a 4ab2 29496 980b 980b 9829 295b6 98e2 4b33 9929 99a7 99c2 99fe",
    "2fa08: 4bce 29b30 9b12 9c40 9cfd 4cce 4ced 9d67 2a0ce 4cf8 2a105 2a20e 2a291 9ebb 4d56",
    "2fa17: 9ef9 9efe 9f05 9f0f 9f16 9f3b 2a600"]

/-- Characters that a name drops, as closed intervals. -/
def droppedRanges : List (Nat × Nat) :=
  [(0xad, 0xad), (0x34f, 0x34f), (0x115f, 0x1160), (0x17b4, 0x17b5), (0x180b, 0x180f),
    (0x200b, 0x200b), (0x2060, 0x2064), (0x206a, 0x206f), (0x3164, 0x3164),
    (0xfe00, 0xfe0f), (0xfeff, 0xfeff), (0xffa0, 0xffa0), (0x1bca0, 0x1bca3),
    (0x1d173, 0x1d17a), (0xe0100, 0xe01ef)]

/-- Characters that a name cannot have, as closed intervals in ascending order. -/
def refusedRanges : List (Nat × Nat) :=
  [(0x80, 0x9f), (0x378, 0x379), (0x380, 0x383), (0x38b, 0x38b), (0x38d, 0x38d),
    (0x3a2, 0x3a2), (0x530, 0x530), (0x557, 0x557), (0x58b, 0x58c), (0x590, 0x590),
    (0x5c9, 0x5cf), (0x5eb, 0x5ee), (0x5f5, 0x605), (0x61c, 0x61c), (0x6dd, 0x6dd),
    (0x70e, 0x70f), (0x74b, 0x74c), (0x7b2, 0x7bf), (0x7fb, 0x7fc), (0x82e, 0x82f),
    (0x83f, 0x83f), (0x85c, 0x85d), (0x85f, 0x85f), (0x86b, 0x86f), (0x890, 0x896),
    (0x8e2, 0x8e2), (0x984, 0x984), (0x98d, 0x98e), (0x991, 0x992), (0x9a9, 0x9a9),
    (0x9b1, 0x9b1), (0x9b3, 0x9b5), (0x9ba, 0x9bb), (0x9c5, 0x9c6), (0x9c9, 0x9ca),
    (0x9cf, 0x9d6), (0x9d8, 0x9db), (0x9de, 0x9de), (0x9e4, 0x9e5), (0x9ff, 0xa00),
    (0xa04, 0xa04), (0xa0b, 0xa0e), (0xa11, 0xa12), (0xa29, 0xa29), (0xa31, 0xa31),
    (0xa34, 0xa34), (0xa37, 0xa37), (0xa3a, 0xa3b), (0xa3d, 0xa3d), (0xa43, 0xa46),
    (0xa49, 0xa4a), (0xa4e, 0xa50), (0xa52, 0xa58), (0xa5d, 0xa5d), (0xa5f, 0xa65),
    (0xa77, 0xa80), (0xa84, 0xa84), (0xa8e, 0xa8e), (0xa92, 0xa92), (0xaa9, 0xaa9),
    (0xab1, 0xab1), (0xab4, 0xab4), (0xaba, 0xabb), (0xac6, 0xac6), (0xaca, 0xaca),
    (0xace, 0xacf), (0xad1, 0xadf), (0xae4, 0xae5), (0xaf2, 0xaf8), (0xb00, 0xb00),
    (0xb04, 0xb04), (0xb0d, 0xb0e), (0xb11, 0xb12), (0xb29, 0xb29), (0xb31, 0xb31),
    (0xb34, 0xb34), (0xb3a, 0xb3b), (0xb45, 0xb46), (0xb49, 0xb4a), (0xb4e, 0xb52),
    (0xb58, 0xb5b), (0xb5e, 0xb5e), (0xb64, 0xb65), (0xb78, 0xb81), (0xb84, 0xb84),
    (0xb8b, 0xb8d), (0xb91, 0xb91), (0xb96, 0xb98), (0xb9b, 0xb9b), (0xb9d, 0xb9d),
    (0xba0, 0xba2), (0xba5, 0xba7), (0xbab, 0xbad), (0xbba, 0xbbd), (0xbc3, 0xbc5),
    (0xbc9, 0xbc9), (0xbce, 0xbcf), (0xbd1, 0xbd6), (0xbd8, 0xbe5), (0xbfb, 0xbff),
    (0xc0d, 0xc0d), (0xc11, 0xc11), (0xc29, 0xc29), (0xc3a, 0xc3b), (0xc45, 0xc45),
    (0xc49, 0xc49), (0xc4e, 0xc54), (0xc57, 0xc57), (0xc5b, 0xc5b), (0xc5e, 0xc5f),
    (0xc64, 0xc65), (0xc70, 0xc76), (0xc8d, 0xc8d), (0xc91, 0xc91), (0xca9, 0xca9),
    (0xcb4, 0xcb4), (0xcba, 0xcbb), (0xcc5, 0xcc5), (0xcc9, 0xcc9), (0xcce, 0xcd4),
    (0xcd7, 0xcdb), (0xcdf, 0xcdf), (0xce4, 0xce5), (0xcf0, 0xcf0), (0xcf4, 0xcff),
    (0xd0d, 0xd0d), (0xd11, 0xd11), (0xd45, 0xd45), (0xd49, 0xd49), (0xd50, 0xd53),
    (0xd64, 0xd65), (0xd80, 0xd80), (0xd84, 0xd84), (0xd97, 0xd99), (0xdb2, 0xdb2),
    (0xdbc, 0xdbc), (0xdbe, 0xdbf), (0xdc7, 0xdc9), (0xdcb, 0xdce), (0xdd5, 0xdd5),
    (0xdd7, 0xdd7), (0xde0, 0xde5), (0xdf0, 0xdf1), (0xdf5, 0xe00), (0xe3b, 0xe3e),
    (0xe5c, 0xe80), (0xe83, 0xe83), (0xe85, 0xe85), (0xe8b, 0xe8b), (0xea4, 0xea4),
    (0xea6, 0xea6), (0xebe, 0xebf), (0xec5, 0xec5), (0xec7, 0xec7), (0xecf, 0xecf),
    (0xeda, 0xedb), (0xee0, 0xeff), (0xf48, 0xf48), (0xf6d, 0xf70), (0xf98, 0xf98),
    (0xfbd, 0xfbd), (0xfcd, 0xfcd), (0xfdb, 0xfff), (0x10c6, 0x10c6), (0x10c8, 0x10cc),
    (0x10ce, 0x10cf), (0x1249, 0x1249), (0x124e, 0x124f), (0x1257, 0x1257),
    (0x1259, 0x1259), (0x125e, 0x125f), (0x1289, 0x1289), (0x128e, 0x128f),
    (0x12b1, 0x12b1), (0x12b6, 0x12b7), (0x12bf, 0x12bf), (0x12c1, 0x12c1),
    (0x12c6, 0x12c7), (0x12d7, 0x12d7), (0x1311, 0x1311), (0x1316, 0x1317),
    (0x135b, 0x135c), (0x137d, 0x137f), (0x139a, 0x139f), (0x13f6, 0x13f7),
    (0x13fe, 0x13ff), (0x1680, 0x1680), (0x169d, 0x169f), (0x16f9, 0x16ff),
    (0x1716, 0x171e), (0x1737, 0x173f), (0x1754, 0x175f), (0x176d, 0x176d),
    (0x1771, 0x1771), (0x1774, 0x177f), (0x17de, 0x17df), (0x17ea, 0x17ef),
    (0x17fa, 0x17ff), (0x181a, 0x181f), (0x1879, 0x187f), (0x18ab, 0x18af),
    (0x18f6, 0x18ff), (0x191f, 0x191f), (0x192c, 0x192f), (0x193c, 0x193f),
    (0x1941, 0x1943), (0x196e, 0x196f), (0x1975, 0x197f), (0x19ac, 0x19af),
    (0x19ca, 0x19cf), (0x19db, 0x19dd), (0x1a1c, 0x1a1d), (0x1a5f, 0x1a5f),
    (0x1a7d, 0x1a7e), (0x1a8a, 0x1a8f), (0x1a9a, 0x1a9f), (0x1aae, 0x1aaf),
    (0x1af1, 0x1aff), (0x1b4d, 0x1b4d), (0x1bf4, 0x1bfb), (0x1c38, 0x1c3a),
    (0x1c4a, 0x1c4c), (0x1c8b, 0x1c8f), (0x1cbb, 0x1cbc), (0x1cc8, 0x1ccf),
    (0x1cfb, 0x1cff), (0x1f16, 0x1f17), (0x1f1e, 0x1f1f), (0x1f46, 0x1f47),
    (0x1f4e, 0x1f4f), (0x1f58, 0x1f58), (0x1f5a, 0x1f5a), (0x1f5c, 0x1f5c),
    (0x1f5e, 0x1f5e), (0x1f7e, 0x1f7f), (0x1fb5, 0x1fb5), (0x1fc5, 0x1fc5),
    (0x1fd4, 0x1fd5), (0x1fdc, 0x1fdc), (0x1ff0, 0x1ff1), (0x1ff5, 0x1ff5),
    (0x1fff, 0x1fff), (0x200e, 0x200f), (0x2024, 0x2026), (0x2028, 0x202e),
    (0x2065, 0x2069), (0x2072, 0x2073), (0x20c5, 0x20cf), (0x20f1, 0x20ff),
    (0x218c, 0x218f), (0x242a, 0x243f), (0x244b, 0x245f), (0x2488, 0x249b),
    (0x2b74, 0x2b75), (0x2cf4, 0x2cf8), (0x2d26, 0x2d26), (0x2d28, 0x2d2c),
    (0x2d2e, 0x2d2f), (0x2d68, 0x2d6e), (0x2d71, 0x2d7e), (0x2d97, 0x2d9f),
    (0x2da7, 0x2da7), (0x2daf, 0x2daf), (0x2db7, 0x2db7), (0x2dbf, 0x2dbf),
    (0x2dc7, 0x2dc7), (0x2dcf, 0x2dcf), (0x2dd7, 0x2dd7), (0x2ddf, 0x2ddf),
    (0x2e5e, 0x2e7f), (0x2e9a, 0x2e9a), (0x2ef4, 0x2eff), (0x2fd6, 0x2fff),
    (0x3040, 0x3040), (0x3097, 0x3098), (0x3100, 0x3104), (0x3130, 0x3130),
    (0x318f, 0x318f), (0x31e6, 0x31ef), (0x321f, 0x321f), (0x33c2, 0x33c2),
    (0x33c7, 0x33c7), (0x33d8, 0x33d8), (0xa48d, 0xa48f), (0xa4c7, 0xa4cf),
    (0xa62c, 0xa63f), (0xa6f8, 0xa6ff), (0xa7e3, 0xa7f0), (0xa82d, 0xa82f),
    (0xa83a, 0xa83f), (0xa878, 0xa87f), (0xa8c6, 0xa8cd), (0xa8da, 0xa8df),
    (0xa954, 0xa95e), (0xa97d, 0xa97f), (0xa9ce, 0xa9ce), (0xa9da, 0xa9dd),
    (0xa9ff, 0xa9ff), (0xaa37, 0xaa3f), (0xaa4e, 0xaa4f), (0xaa5a, 0xaa5b),
    (0xaac3, 0xaada), (0xaaf7, 0xab00), (0xab07, 0xab08), (0xab0f, 0xab10),
    (0xab17, 0xab1f), (0xab27, 0xab27), (0xab2f, 0xab2f), (0xabee, 0xabef),
    (0xabfa, 0xabff), (0xd7a4, 0xd7af), (0xd7c7, 0xd7ca), (0xd7fc, 0xf8ff),
    (0xfa6e, 0xfa6f), (0xfada, 0xfaff), (0xfb07, 0xfb12), (0xfb18, 0xfb1c),
    (0xfb37, 0xfb37), (0xfb3d, 0xfb3d), (0xfb3f, 0xfb3f), (0xfb42, 0xfb42),
    (0xfb45, 0xfb45), (0xfdd0, 0xfdef), (0xfe12, 0xfe12), (0xfe19, 0xfe1f),
    (0xfe30, 0xfe30), (0xfe52, 0xfe53), (0xfe67, 0xfe67), (0xfe6c, 0xfe6f),
    (0xfe75, 0xfe75), (0xfefd, 0xfefe), (0xff00, 0xff00), (0xffbf, 0xffc1),
    (0xffc8, 0xffc9), (0xffd0, 0xffd1), (0xffd8, 0xffd9), (0xffdd, 0xffdf),
    (0xffe7, 0xffe7), (0xffef, 0xffff), (0x1000c, 0x1000c), (0x10027, 0x10027),
    (0x1003b, 0x1003b), (0x1003e, 0x1003e), (0x1004e, 0x1004f), (0x1005e, 0x1007f),
    (0x100fb, 0x100ff), (0x10103, 0x10106), (0x10134, 0x10136), (0x1018f, 0x1018f),
    (0x1019d, 0x1019f), (0x101a1, 0x101cf), (0x101fe, 0x1027f), (0x1029d, 0x1029f),
    (0x102d1, 0x102df), (0x102fc, 0x102ff), (0x10324, 0x1032c), (0x1034b, 0x1034f),
    (0x1037b, 0x1037f), (0x1039e, 0x1039e), (0x103c4, 0x103c7), (0x103d6, 0x103ff),
    (0x1049e, 0x1049f), (0x104aa, 0x104af), (0x104d4, 0x104d7), (0x104fc, 0x104ff),
    (0x10528, 0x1052f), (0x10564, 0x1056e), (0x1057b, 0x1057b), (0x1058b, 0x1058b),
    (0x10593, 0x10593), (0x10596, 0x10596), (0x105a2, 0x105a2), (0x105b2, 0x105b2),
    (0x105ba, 0x105ba), (0x105bd, 0x105bf), (0x105f4, 0x105ff), (0x10737, 0x1073f),
    (0x10756, 0x1075f), (0x10768, 0x1077f), (0x10786, 0x10786), (0x107b1, 0x107b1),
    (0x107c0, 0x107ff), (0x10806, 0x10807), (0x10809, 0x10809), (0x10836, 0x10836),
    (0x10839, 0x1083b), (0x1083d, 0x1083e), (0x10856, 0x10856), (0x1089f, 0x108a6),
    (0x108b0, 0x108df), (0x108f3, 0x108f3), (0x108f6, 0x108fa), (0x1091c, 0x1091e),
    (0x1093a, 0x1093e), (0x1095a, 0x1097f), (0x109b8, 0x109bb), (0x109d0, 0x109d1),
    (0x10a04, 0x10a04), (0x10a07, 0x10a0b), (0x10a14, 0x10a14), (0x10a18, 0x10a18),
    (0x10a36, 0x10a37), (0x10a3b, 0x10a3e), (0x10a49, 0x10a4f), (0x10a59, 0x10a5f),
    (0x10aa0, 0x10abf), (0x10ae7, 0x10aea), (0x10af7, 0x10aff), (0x10b36, 0x10b38),
    (0x10b56, 0x10b57), (0x10b73, 0x10b77), (0x10b92, 0x10b98), (0x10b9d, 0x10ba8),
    (0x10bb0, 0x10bff), (0x10c49, 0x10c7f), (0x10cb3, 0x10cbf), (0x10cf3, 0x10cf9),
    (0x10d28, 0x10d2f), (0x10d3a, 0x10d3f), (0x10d66, 0x10d68), (0x10d86, 0x10d8d),
    (0x10d90, 0x10e5f), (0x10e7f, 0x10e7f), (0x10eaa, 0x10eaa), (0x10eae, 0x10eaf),
    (0x10eb2, 0x10ec1), (0x10ece, 0x10ecf), (0x10eef, 0x10ef4), (0x10f28, 0x10f2f),
    (0x10f5a, 0x10f6f), (0x10f8a, 0x10faf), (0x10fcc, 0x10fdf), (0x10ff7, 0x10fff),
    (0x1104e, 0x11051), (0x11076, 0x1107e), (0x110bd, 0x110bd), (0x110c3, 0x110cf),
    (0x110e9, 0x110ef), (0x110fa, 0x110ff), (0x11135, 0x11135), (0x11148, 0x1114f),
    (0x11177, 0x1117f), (0x111e0, 0x111e0), (0x111f5, 0x111ff), (0x11212, 0x11212),
    (0x11242, 0x1127f), (0x11287, 0x11287), (0x11289, 0x11289), (0x1128e, 0x1128e),
    (0x1129e, 0x1129e), (0x112aa, 0x112af), (0x112eb, 0x112ef), (0x112fa, 0x112ff),
    (0x11304, 0x11304), (0x1130d, 0x1130e), (0x11311, 0x11312), (0x11329, 0x11329),
    (0x11331, 0x11331), (0x11334, 0x11334), (0x1133a, 0x1133a), (0x11345, 0x11346),
    (0x11349, 0x1134a), (0x1134e, 0x1134f), (0x11351, 0x11356), (0x11358, 0x1135c),
    (0x11364, 0x11365), (0x1136d, 0x1136f), (0x11375, 0x1137f), (0x1138a, 0x1138a),
    (0x1138c, 0x1138d), (0x1138f, 0x1138f), (0x113b6, 0x113b6), (0x113c1, 0x113c1),
    (0x113c3, 0x113c4), (0x113c6, 0x113c6), (0x113cb, 0x113cb), (0x113d6, 0x113d6),
    (0x113d9, 0x113e0), (0x113e3, 0x113ff), (0x1145c, 0x1145c), (0x11462, 0x1147f),
    (0x114c8, 0x114cf), (0x114da, 0x1157f), (0x115b6, 0x115b7), (0x115de, 0x115ff),
    (0x11645, 0x1164f), (0x1165a, 0x1165f), (0x1166d, 0x1167f), (0x116ba, 0x116bf),
    (0x116ca, 0x116cf), (0x116e4, 0x116ff), (0x1171b, 0x1171c), (0x1172c, 0x1172f),
    (0x11747, 0x117ff), (0x1183c, 0x1189f), (0x118f3, 0x118fe), (0x11907, 0x11908),
    (0x1190a, 0x1190b), (0x11914, 0x11914), (0x11917, 0x11917), (0x11936, 0x11936),
    (0x11939, 0x1193a), (0x11947, 0x1194f), (0x1195a, 0x1199f), (0x119a8, 0x119a9),
    (0x119d8, 0x119d9), (0x119e5, 0x119ff), (0x11a48, 0x11a4f), (0x11aa3, 0x11aaf),
    (0x11af9, 0x11aff), (0x11b0b, 0x11b5f), (0x11b68, 0x11bbf), (0x11be2, 0x11bef),
    (0x11bfa, 0x11bff), (0x11c09, 0x11c09), (0x11c37, 0x11c37), (0x11c46, 0x11c4f),
    (0x11c6d, 0x11c6f), (0x11c90, 0x11c91), (0x11ca8, 0x11ca8), (0x11cb7, 0x11cff),
    (0x11d07, 0x11d07), (0x11d0a, 0x11d0a), (0x11d37, 0x11d39), (0x11d3b, 0x11d3b),
    (0x11d3e, 0x11d3e), (0x11d48, 0x11d4f), (0x11d5a, 0x11d5f), (0x11d66, 0x11d66),
    (0x11d69, 0x11d69), (0x11d8f, 0x11d8f), (0x11d92, 0x11d92), (0x11d99, 0x11d9f),
    (0x11daa, 0x11daf), (0x11ddc, 0x11ddf), (0x11dea, 0x11def), (0x11df2, 0x11edf),
    (0x11ef9, 0x11eff), (0x11f11, 0x11f11), (0x11f3b, 0x11f3d), (0x11f5b, 0x11faf),
    (0x11fb1, 0x11fbf), (0x11ff2, 0x11ffe), (0x1239a, 0x123ff), (0x12476, 0x1247f),
    (0x12544, 0x1254f), (0x12687, 0x12f8f), (0x12ff3, 0x12fff), (0x13430, 0x1343f),
    (0x13456, 0x1345f), (0x143fb, 0x143ff), (0x14647, 0x160ff), (0x1613a, 0x167ff),
    (0x16a39, 0x16a3f), (0x16a5f, 0x16a5f), (0x16a6a, 0x16a6d), (0x16abf, 0x16abf),
    (0x16aca, 0x16acf), (0x16aee, 0x16aef), (0x16af6, 0x16aff), (0x16b46, 0x16b4f),
    (0x16b5a, 0x16b5a), (0x16b62, 0x16b62), (0x16b78, 0x16b7c), (0x16b90, 0x16d3f),
    (0x16d7a, 0x16d7f), (0x16daa, 0x16e3f), (0x16e9b, 0x16e9f), (0x16eb9, 0x16eba),
    (0x16ed4, 0x16eff), (0x16f4b, 0x16f4e), (0x16f88, 0x16f8e), (0x16fa0, 0x16fdf),
    (0x16fe5, 0x16fef), (0x16ff7, 0x16fff), (0x18cd7, 0x18cfe), (0x18d21, 0x18d7f),
    (0x18df3, 0x18dff), (0x19192, 0x1919f), (0x191d3, 0x1afef), (0x1aff4, 0x1aff4),
    (0x1affc, 0x1affc), (0x1afff, 0x1afff), (0x1b123, 0x1b131), (0x1b133, 0x1b14f),
    (0x1b153, 0x1b154), (0x1b156, 0x1b163), (0x1b169, 0x1b16f), (0x1b2fc, 0x1bbff),
    (0x1bc6b, 0x1bc6f), (0x1bc7d, 0x1bc7f), (0x1bc89, 0x1bc8f), (0x1bc9a, 0x1bc9b),
    (0x1bca4, 0x1cbff), (0x1ccfd, 0x1ccff), (0x1ceb4, 0x1ceb9), (0x1ced4, 0x1cede),
    (0x1cefe, 0x1ceff), (0x1cf2e, 0x1cf2f), (0x1cf47, 0x1cf4f), (0x1cfc4, 0x1cfff),
    (0x1d0f6, 0x1d0ff), (0x1d127, 0x1d128), (0x1d1eb, 0x1d1ff), (0x1d246, 0x1d24f),
    (0x1d25f, 0x1d2bf), (0x1d2d4, 0x1d2df), (0x1d2f4, 0x1d2ff), (0x1d357, 0x1d35f),
    (0x1d379, 0x1d3ff), (0x1d455, 0x1d455), (0x1d49d, 0x1d49d), (0x1d4a0, 0x1d4a1),
    (0x1d4a3, 0x1d4a4), (0x1d4a7, 0x1d4a8), (0x1d4ad, 0x1d4ad), (0x1d4ba, 0x1d4ba),
    (0x1d4bc, 0x1d4bc), (0x1d4c4, 0x1d4c4), (0x1d506, 0x1d506), (0x1d50b, 0x1d50c),
    (0x1d515, 0x1d515), (0x1d51d, 0x1d51d), (0x1d53a, 0x1d53a), (0x1d53f, 0x1d53f),
    (0x1d545, 0x1d545), (0x1d547, 0x1d549), (0x1d551, 0x1d551), (0x1d6a7, 0x1d6a7),
    (0x1d7cc, 0x1d7cd), (0x1da8c, 0x1da9a), (0x1daa0, 0x1daa0), (0x1dab0, 0x1daff),
    (0x1db1d, 0x1deff), (0x1df94, 0x1dffe), (0x1e007, 0x1e007), (0x1e019, 0x1e01a),
    (0x1e022, 0x1e022), (0x1e025, 0x1e025), (0x1e02b, 0x1e02f), (0x1e06e, 0x1e08e),
    (0x1e090, 0x1e0ff), (0x1e12d, 0x1e12f), (0x1e13e, 0x1e13f), (0x1e14a, 0x1e14d),
    (0x1e150, 0x1e28f), (0x1e2af, 0x1e2bf), (0x1e2fa, 0x1e2fe), (0x1e300, 0x1e4cf),
    (0x1e4fa, 0x1e5cf), (0x1e5fb, 0x1e5fe), (0x1e600, 0x1e6bf), (0x1e6df, 0x1e6df),
    (0x1e6f6, 0x1e6fd), (0x1e700, 0x1e7df), (0x1e7e7, 0x1e7e7), (0x1e7ec, 0x1e7ec),
    (0x1e7ef, 0x1e7ef), (0x1e7ff, 0x1e7ff), (0x1e8c5, 0x1e8c6), (0x1e8d7, 0x1e8ff),
    (0x1e94c, 0x1e94f), (0x1e95a, 0x1e95d), (0x1e960, 0x1ec70), (0x1ecb5, 0x1ed00),
    (0x1ed3e, 0x1edff), (0x1ee04, 0x1ee04), (0x1ee20, 0x1ee20), (0x1ee23, 0x1ee23),
    (0x1ee25, 0x1ee26), (0x1ee28, 0x1ee28), (0x1ee33, 0x1ee33), (0x1ee38, 0x1ee38),
    (0x1ee3a, 0x1ee3a), (0x1ee3c, 0x1ee41), (0x1ee43, 0x1ee46), (0x1ee48, 0x1ee48),
    (0x1ee4a, 0x1ee4a), (0x1ee4c, 0x1ee4c), (0x1ee50, 0x1ee50), (0x1ee53, 0x1ee53),
    (0x1ee55, 0x1ee56), (0x1ee58, 0x1ee58), (0x1ee5a, 0x1ee5a), (0x1ee5c, 0x1ee5c),
    (0x1ee5e, 0x1ee5e), (0x1ee60, 0x1ee60), (0x1ee63, 0x1ee63), (0x1ee65, 0x1ee66),
    (0x1ee6b, 0x1ee6b), (0x1ee73, 0x1ee73), (0x1ee78, 0x1ee78), (0x1ee7d, 0x1ee7d),
    (0x1ee7f, 0x1ee7f), (0x1ee8a, 0x1ee8a), (0x1ee9c, 0x1eea0), (0x1eea4, 0x1eea4),
    (0x1eeaa, 0x1eeaa), (0x1eebc, 0x1eeef), (0x1eef2, 0x1efff), (0x1f02c, 0x1f02f),
    (0x1f094, 0x1f09f), (0x1f0af, 0x1f0b0), (0x1f0c0, 0x1f0c0), (0x1f0d0, 0x1f0d0),
    (0x1f0f6, 0x1f100), (0x1f1af, 0x1f1e5), (0x1f203, 0x1f20f), (0x1f23c, 0x1f23f),
    (0x1f249, 0x1f24f), (0x1f252, 0x1f25f), (0x1f266, 0x1f2ff), (0x1f6da, 0x1f6db),
    (0x1f6ed, 0x1f6ef), (0x1f6fd, 0x1f6ff), (0x1f7dc, 0x1f7df), (0x1f7ec, 0x1f7ef),
    (0x1f7f1, 0x1f7fe), (0x1f80c, 0x1f80f), (0x1f848, 0x1f84f), (0x1f85a, 0x1f85f),
    (0x1f888, 0x1f88f), (0x1f8ae, 0x1f8af), (0x1f8bc, 0x1f8bf), (0x1f8c2, 0x1f8cf),
    (0x1f8d9, 0x1f8ff), (0x1fa58, 0x1fa5f), (0x1fa6e, 0x1fa6f), (0x1fa7d, 0x1fa7f),
    (0x1fa8d, 0x1fa8d), (0x1fac7, 0x1fac7), (0x1fac9, 0x1facb), (0x1fade, 0x1fade),
    (0x1faec, 0x1faee), (0x1fafb, 0x1faff), (0x1fb93, 0x1fb93), (0x1fbfb, 0x1ffff),
    (0x2a6e0, 0x2a6ff), (0x2b81f, 0x2b81f), (0x2ceae, 0x2ceaf), (0x2ebe1, 0x2ebef),
    (0x2ee5e, 0x2f7ff), (0x2fa1e, 0x2ffff), (0x3134b, 0x3134f), (0x3347a, 0x3cfff),
    (0x3fc40, 0xe00ff), (0xe01f0, 0x10ffff)]

end StorageArray.Http.Name
