import Pagewise.Text.CodeTable

/-!
The direction of writing. Where a name has words that are written to the left, every label of it has
to keep its order in any setting: it begins with a letter, all its letters go one way, and it ends
with a letter or digit that goes along with them.
-/
namespace Pagewise.Text

inductive Direction where
  | rightward
  | leftward
  | europeanDigit
  | arabicDigit
  | mark
  | neutral
  deriving DecidableEq, Repr

namespace Direction

def ofLetter? : List Char → Option Direction
  | ['R'] => some .leftward
  | ['E'] => some .europeanDigit
  | ['A'] => some .arabicDigit
  | ['M'] => some .mark
  | ['N'] => some .neutral
  | _ => none

/-- Directions other than rightward of the code points that names may hold: `R` for leftward, `E` and
`A` for digits, `M` for marks and `N` for neutral. The other code points go with their neighbours. -/
def codes : String :=
  "21-2e:N 30-39:E 3b-60:N 7b-d7:N f7:N 2b9-2ba:N 2c2-2cf:N 2d2-2ed:N 2ef-2ff:N 300-36f:M 375:N
   3f6:N 483-489:M 58a-58f:N 591-5bd:M 5be:R 5bf:M 5c0:R 5c1-5c2:M 5c3:R 5c4-5c5:M 5c6:R 5c7:M
   5d0-5f4:R 606-607:N 608:R 609-60a:N 60b:R 60c:N 60d:R 60e-60f:N 610-61a:M 61b-64a:R 64b-65f:M
   660-669:A 66a:N 66b-66c:A 66d-66f:R 670:M 671-6d5:R 6d6-6dc:M 6de:N 6df-6e4:M 6e5-6e6:R
   6e7-6e8:M 6e9:N 6ea-6ed:M 6ee-6ef:R 6f0-6f9:E 6fa-710:R 711:M 712-72f:R 730-74a:M 74d-7a5:R
   7a6-7b0:M 7b1-7ea:R 7eb-7f3:M 7f4-7f5:R 7f6-7f9:N 7fa:R 7fd:M 7fe-815:R 816-819:M 81a:R
   81b-823:M 824:R 825-827:M 828:R 829-82d:M 830-858:R 859-85b:M 85e-88f:R 897-89f:M 8a0-8c9:R
   8ca-902:M 93a:M 93c:M 941-948:M 94d:M 951-957:M 962-963:M 981:M 9bc:M 9c1-9c4:M 9cd:M
   9e2-9e3:M 9f2-9f3:N 9fb:N 9fe-a02:M a3c:M a41-a51:M a70-a71:M a75:M a81-a82:M abc:M ac1-ac8:M
   acd:M ae2-ae3:M af1:N afa-b01:M b3c:M b3f:M b41-b44:M b4d-b56:M b62-b63:M b82:M bc0:M bcd:M
   bf3-bfa:N c00:M c04:M c3c:M c3e-c40:M c46-c56:M c62-c63:M c78-c7e:N c81:M cbc:M ccc-ccd:M
   ce2-ce3:M d00-d01:M d3b-d3c:M d41-d44:M d4d:M d62-d63:M d81:M dca:M dd2-dd6:M e31:M e34-e3a:M
   e3f:N e47-e4e:M eb1:M eb4-ebc:M ec8-ece:M f18-f19:M f35:M f37:M f39:M f3a-f3d:N f71-f7e:M
   f80-f84:M f86-f87:M f8d-fbc:M fc6:M 102d-1030:M 1032-1037:M 1039-103a:M 103d-103e:M
   1058-1059:M 105e-1060:M 1071-1074:M 1082:M 1085-1086:M 108d:M 109d:M 135d-135f:M 1390-1399:N
   1400:N 169b-169c:N 1712-1714:M 1732-1733:M 1752-1753:M 1772-1773:M 17b7-17bd:M 17c6:M
   17c9-17d3:M 17db:N 17dd:M 17f0-180a:N 1885-1886:M 18a9:M 1920-1922:M 1927-1928:M 1932:M
   1939-193b:M 1940-1945:N 19de-19ff:N 1a17-1a18:M 1a1b:M 1a56:M 1a58-1a60:M 1a62:M 1a65-1a6c:M
   1a73-1a7f:M 1ab0-1b03:M 1b34:M 1b36-1b3a:M 1b3c:M 1b42:M 1b6b-1b73:M 1b80-1b81:M 1ba2-1ba5:M
   1ba8-1ba9:M 1bab-1bad:M 1be6:M 1be8-1be9:M 1bed:M 1bef-1bf1:M 1c2c-1c33:M 1c36-1c37:M
   1cd0-1cd2:M 1cd4-1ce0:M 1ce2-1ce8:M 1ced:M 1cf4:M 1cf8-1cf9:M 1dc0-1dff:M 200c-20c1:N
   20d0-20f0:M 2104-214d:N 218a-2335:N 237b-2394:N 2396-26ab:N 26ad-27ff:N 2900-2bff:N
   2ce5-2cea:N 2cef-2cf1:M 2cf9-2cff:N 2d7f:M 2de0-2dff:M 2e00-3004:N 3008-3020:N 302a-302d:M
   3030:N 3037:N 303d-303f:N 3099-309a:M 30a0:N 30fb:N 31c0-31e5:N 4dc0-4dff:N a490-a4c6:N
   a60d-a60f:N a66f-a672:M a673:N a674-a67d:M a67e-a67f:N a69e-a69f:M a6f0-a6f1:M a700-a721:N
   a788:N a802:M a806:M a80b:M a825-a826:M a828-a82b:N a82c:M a838-a839:N a874-a877:N
   a8c4-a8c5:M a8e0-a8f1:M a8ff:M a926-a92d:M a947-a951:M a980-a982:M a9b3:M a9b6-a9b9:M
   a9bc-a9bd:M a9e5:M aa29-aa2e:M aa31-aa32:M aa35-aa36:M aa43:M aa4c:M aa7c:M aab0:M
   aab2-aab4:M aab7-aab8:M aabe-aabf:M aac1:M aaec-aaed:M aaf6:M ab6a-ab6b:N abe5:M abe8:M
   abed:M fb1e:M fbb2-fbc2:R fbc3-fdff:N fe20-fe2f:M fe45-fe46:N fe73:R 10101:N 10140-1018c:N
   10190-101a0:N 101fd:M 102e0:M 102e1-102fb:E 10376-1037a:M 10800-1091b:R 1091f:N 10920-10a00:R
   10a01-10a0f:M 10a10-10a35:R 10a38-10a3f:M 10a40-10ae4:R 10ae5-10ae6:M 10aeb-10b35:R
   10b39-10b3f:N 10b40-10d23:R 10d24-10d27:M 10d30-10d39:A 10d40-10d4f:R 10d69-10d6d:M 10d6e:N
   10d6f-10d8f:R 10e60-10e7e:A 10e80-10ea9:R 10eab-10eac:M 10ead-10ec7:R 10ed0-10ed8:N
   10efa-10eff:M 10f00-10f45:R 10f46-10f50:M 10f51-10f81:R 10f82-10f85:M 10f86-10ff6:R 11001:M
   11038-11046:M 11052-11065:N 11070:M 11073-11074:M 1107f-11081:M 110b3-110b6:M 110b9-110ba:M
   110c2:M 11100-11102:M 11127-1112b:M 1112d-11134:M 11173:M 11180-11181:M 111b6-111be:M
   111c9-111cc:M 111cf:M 1122f-11231:M 11234:M 11236-11237:M 1123e:M 11241:M 112df:M
   112e3-112ea:M 11300-11301:M 1133b-1133c:M 11340:M 11366-11374:M 113bb-113c0:M 113ce:M 113d0:M
   113d2:M 113e1-113e2:M 11438-1143f:M 11442-11444:M 11446:M 1145e:M 114b3-114b8:M 114ba:M
   114bf-114c0:M 114c2-114c3:M 115b2-115b5:M 115bc-115bd:M 115bf-115c0:M 115dc-115dd:M
   11633-1163a:M 1163d:M 1163f-11640:M 11660-1166c:N 116ab:M 116ad:M 116b0-116b5:M 116b7:M
   1171d-1171f:M 11722-11725:M 11727-1172b:M 1182f-11837:M 11839-1183a:M 1193b-1193c:M 1193e:M
   11943:M 119d4-119db:M 119e0:M 11a01-11a06:M 11a09-11a0a:M 11a33-11a38:M 11a3b-11a3e:M 11a47:M
   11a51-11a56:M 11a59-11a5b:M 11a8a-11a96:M 11a98-11a99:M 11b60:M 11b62-11b64:M 11b66:M
   11c30-11c3d:M 11c92-11ca7:M 11caa-11cb0:M 11cb2-11cb3:M 11cb5-11cb6:M 11d31-11d45:M 11d47:M
   11d90-11d91:M 11d95:M 11d97:M 11ef3-11ef4:M 11f00-11f01:M 11f36-11f3a:M 11f40:M 11f42:M
   11f5a:M 11fd5-11ff1:N 13440:M 13447-13455:M 1611e-16129:M 1612d-1612f:M 16af0-16af4:M
   16b30-16b36:M 16f4f:M 16f8f-16f92:M 16fe2:N 16fe4:M 1bc9d-1bc9e:M 1cc00-1cef0:N 1cf00-1cf46:M
   1d167-1d169:M 1d17b-1d182:M 1d185-1d18b:M 1d1aa-1d1ad:M 1d1e9-1d241:N 1d242-1d244:M 1d245:N
   1d300-1d356:N 1da00-1da36:M 1da3b-1da6c:M 1da75:M 1da84:M 1da9b-1daaf:M 1e000-1e08f:M
   1e130-1e136:M 1e2ae:M 1e2ec-1e2ef:M 1e2ff:N 1e4ec-1e4ef:M 1e5ee-1e5ef:M 1e6e3:M 1e6e6:M
   1e6ee-1e6ef:M 1e6f5:M 1e800-1e8cf:R 1e8d0-1e8d6:M 1e922-1e943:R 1e944-1e94a:M 1e94b-1ed3d:R
   1eef0-1f12f:N 1f16d-1f16f:N 1f1ad:N 1f260-1fbfa:N"

def table : CodeTable Direction := .read ofLetter? codes

def ofChar (c : Char) : Direction := (table.value? c).getD .rightward

def turns : Direction → Bool
  | .leftward | .arabicDigit => true
  | _ => false

def ending (ds : List Direction) : Option Direction := (ds.reverse.dropWhile (· == .mark)).head?

/-- Directions in an order that holds in every setting. -/
def isStable (ds : List Direction) : Bool :=
  match ds with
  | [] => true
  | .rightward :: _ =>
    !ds.any turns && (ending ds).any fun d => d == .rightward || d == .europeanDigit
  | .leftward :: _ =>
    !ds.contains .rightward && !(ds.contains .europeanDigit && ds.contains .arabicDigit) &&
      (ending ds).any fun d => d == .leftward || d == .europeanDigit || d == .arabicDigit
  | _ => false

end Direction

end Pagewise.Text
