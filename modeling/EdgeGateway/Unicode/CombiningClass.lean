import EdgeGateway.Unicode.Table

/-!
# Canonical combining classes

Marks that follow one base character are put into the order of their combining classes.  Only
marks have a class other than zero.
-/

namespace EdgeGateway

namespace Unicode

/-- The combining classes other than zero. -/
def combiningClasses : Table Nat :=
  Table.read readHex [
    "300-314>e6 315>e8 316-319>dc 31a>e8 31b>d8 31c-320>dc 321-322>ca 323-326>dc 327-328>ca",
    "329-333>dc 334-338>1 339-33c>dc 33d-344>e6 345>f0 346>e6 347-349>dc 34a-34c>e6 34d-34e>dc",
    "350-352>e6 353-356>dc 357>e6 358>e8 359-35a>dc 35b>e6 35c>e9 35d-35e>ea 35f>e9 360-361>ea",
    "362>e9 363-36f>e6 483-487>e6 591>dc 592-595>e6 596>dc 597-599>e6 59a>de 59b>dc 59c-5a1>e6",
    "5a2-5a7>dc 5a8-5a9>e6 5aa>dc 5ab-5ac>e6 5ad>de 5ae>e4 5af>e6 5b0>a 5b1>b 5b2>c 5b3>d 5b4>e",
    "5b5>f 5b6>10 5b7>11 5b8>12 5b9-5ba>13 5bb>14 5bc>15 5bd>16 5bf>17 5c1>18 5c2>19 5c4>e6",
    "5c5>dc 5c7>12 610-617>e6 618>1e 619>1f 61a>20 64b>1b 64c>1c 64d>1d 64e>1e 64f>1f 650>20",
    "651>21 652>22 653-654>e6 655-656>dc 657-65b>e6 65c>dc 65d-65e>e6 65f>dc 670>23 6d6-6dc>e6",
    "6df-6e2>e6 6e3>dc 6e4>e6 6e7-6e8>e6 6ea>dc 6eb-6ec>e6 6ed>dc 711>24 730>e6 731>dc",
    "732-733>e6 734>dc 735-736>e6 737-739>dc 73a>e6 73b-73c>dc 73d>e6 73e>dc 73f-741>e6 742>dc",
    "743>e6 744>dc 745>e6 746>dc 747>e6 748>dc 749-74a>e6 7eb-7f1>e6 7f2>dc 7f3>e6 7fd>dc",
    "816-819>e6 81b-823>e6 825-827>e6 829-82d>e6 859-85b>dc 897-898>e6 899-89b>dc 89c-89f>e6",
    "8ca-8ce>e6 8cf-8d3>dc 8d4-8e1>e6 8e3>dc 8e4-8e5>e6 8e6>dc 8e7-8e8>e6 8e9>dc 8ea-8ec>e6",
    "8ed-8ef>dc 8f0>1b 8f1>1c 8f2>1d 8f3-8f5>e6 8f6>dc 8f7-8f8>e6 8f9-8fa>dc 8fb-8ff>e6 93c>7",
    "94d>9 951>e6 952>dc 953-954>e6 9bc>7 9cd>9 9fe>e6 a3c>7 a4d>9 abc>7 acd>9 b3c>7 b4d>9",
    "bcd>9 c3c>7 c4d>9 c55>54 c56>5b cbc>7 ccd>9 d3b-d3c>9 d4d>9 dca>9 e38-e39>67 e3a>9",
    "e48-e4b>6b eb8-eb9>76 eba>9 ec8-ecb>7a f18-f19>dc f35>dc f37>dc f39>d8 f71>81 f72>82",
    "f74>84 f7a-f7d>82 f80>82 f82-f83>e6 f84>9 f86-f87>e6 fc6>dc 1037>7 1039-103a>9 108d>dc",
    "135d-135f>e6 1714-1715>9 1734>9 17d2>9 17dd>e6 18a9>e4 1939>de 193a>e6 193b>dc 1a17>e6",
    "1a18>dc 1a60>9 1a75-1a7c>e6 1a7f>dc 1ab0-1ab4>e6 1ab5-1aba>dc 1abb-1abc>e6 1abd>dc",
    "1abf-1ac0>dc 1ac1-1ac2>e6 1ac3-1ac4>dc 1ac5-1ac9>e6 1aca>dc 1acb-1adc>e6 1add>dc",
    "1ae0-1ae5>e6 1ae6>dc 1ae7-1aea>e6 1aeb>ea 1b34>7 1b44>9 1b6b>e6 1b6c>dc 1b6d-1b73>e6",
    "1baa-1bab>9 1be6>7 1bf2-1bf3>9 1c37>7 1cd0-1cd2>e6 1cd4>1 1cd5-1cd9>dc 1cda-1cdb>e6",
    "1cdc-1cdf>dc 1ce0>e6 1ce2-1ce8>1 1ced>dc 1cf4>e6 1cf8-1cf9>e6 1dc0-1dc1>e6 1dc2>dc",
    "1dc3-1dc9>e6 1dca>dc 1dcb-1dcc>e6 1dcd>ea 1dce>d6 1dcf>dc 1dd0>ca 1dd1-1df5>e6 1df6>e8",
    "1df7-1df8>e4 1df9>dc 1dfa>da 1dfb>e6 1dfc>e9 1dfd>dc 1dfe>e6 1dff>dc 20d0-20d1>e6",
    "20d2-20d3>1 20d4-20d7>e6 20d8-20da>1 20db-20dc>e6 20e1>e6 20e5-20e6>1 20e7>e6 20e8>dc",
    "20e9>e6 20ea-20eb>1 20ec-20ef>dc 20f0>e6 2cef-2cf1>e6 2d7f>9 2de0-2dff>e6 302a>da 302b>e4",
    "302c>e8 302d>de 302e-302f>e0 3099-309a>8 a66f>e6 a674-a67d>e6 a69e-a69f>e6 a6f0-a6f1>e6",
    "a806>9 a82c>9 a8c4>9 a8e0-a8f1>e6 a92b-a92d>dc a953>9 a9b3>7 a9c0>9 aab0>e6 aab2-aab3>e6",
    "aab4>dc aab7-aab8>e6 aabe-aabf>e6 aac1>e6 aaf6>9 abed>9 fb1e>1a fe20-fe26>e6 fe27-fe2d>dc",
    "fe2e-fe2f>e6 101fd>dc 102e0>dc 10376-1037a>e6 10a0d>dc 10a0f>e6 10a38>e6 10a39>1 10a3a>dc",
    "10a3f>9 10ae5>e6 10ae6>dc 10d24-10d27>e6 10d69-10d6d>e6 10eab-10eac>e6 10efa-10efb>dc",
    "10efd-10eff>dc 10f46-10f47>dc 10f48-10f4a>e6 10f4b>dc 10f4c>e6 10f4d-10f50>dc 10f82>e6",
    "10f83>dc 10f84>e6 10f85>dc 11046>9 11070>9 1107f>9 110b9>9 110ba>7 11100-11102>e6",
    "11133-11134>9 11173>7 111c0>9 111ca>7 11235>9 11236>7 112e9>7 112ea>9 1133b-1133c>7",
    "1134d>9 11366-1136c>e6 11370-11374>e6 113ce-113d0>9 11442>9 11446>7 1145e>e6 114c2>9",
    "114c3>7 115bf>9 115c0>7 1163f>9 116b6>9 116b7>7 1172b>9 11839>9 1183a>7 1193d-1193e>9",
    "11943>7 119e0>9 11a34>9 11a47>9 11a99>9 11c3f>9 11d42>7 11d44-11d45>9 11d97>9",
    "11f41-11f42>9 1612f>9 16af0-16af4>1 16b30-16b36>e6 16ff0-16ff1>6 1bc9e>1 1d165-1d166>d8",
    "1d167-1d169>1 1d16d>e2 1d16e-1d172>d8 1d17b-1d182>dc 1d185-1d189>e6 1d18a-1d18b>dc",
    "1d1aa-1d1ad>e6 1d242-1d244>e6 1e000-1e006>e6 1e008-1e018>e6 1e01b-1e021>e6 1e023-1e024>e6",
    "1e026-1e02a>e6 1e08f>e6 1e130-1e136>e6 1e2ae>e6 1e2ec-1e2ef>e6 1e4ec-1e4ed>e8 1e4ee>dc",
    "1e4ef>e6 1e5ee>e6 1e5ef>dc 1e6e3>e6 1e6e6>e6 1e6ee-1e6ef>e6 1e6f5>e6 1e8d0-1e8d6>dc",
    "1e944-1e949>e6 1e94a>7"
  ]

/-- The combining class of a character; zero for starters. -/
def combiningClass (c : Char) : Nat :=
  (combiningClasses.find? c).getD 0

/-- A virama joins the consonant before it to the next one. -/
def isVirama (c : Char) : Bool :=
  combiningClass c == 9

end Unicode

end EdgeGateway
