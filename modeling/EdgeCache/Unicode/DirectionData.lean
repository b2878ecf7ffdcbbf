/-
The Unicode property Bidi_Class, as far as the rule for domain names that run from right to left asks for it. Runs
"first-last:class" in hexadecimal, with the class R for letters written from right to left, A for Arabic numbers, E
for European numbers, N for neutral characters and separators, M for nonspacing marks, X for what such a domain
name may not hold. A character outside every run is a letter written from left to right.
-/
namespace EdgeCache.Unicode

/-- runs "first-last:class" in increasing order -/
def directionData : String :=
  "0-8:N 9-d:X e-1b:N 1c-20:X 21-2f:N 30-39:E 3a-40:N 5b-60:N 7b-84:N 85:X 86-a9:N ab-b1:N b2-b3:E b4:N b6-b8:N
   b9:E bb-bf:N d7:N f7:N 2b9-2ba:N 2c2-2cf:N 2d2-2df:N 2e5-2ed:N 2ef-2ff:N 300-36f:M 374-375:N 37e:N 384-385:N
   387:N 3f6:N 483-489:M 58a:N 58d-58f:N 590:R 591-5bd:M 5be:R 5bf:M 5c0:R 5c1-5c2:M 5c3:R 5c4-5c5:M 5c6:R 5c7:M
   5c8-5ff:R 600-605:A 606-607:N 608:R 609-60a:N 60b:R 60c:N 60d:R 60e-60f:N 610-61a:M 61b-64a:R 64b-65f:M
   660-669:A 66a:N 66b-66c:A 66d-66f:R 670:M 671-6d5:R 6d6-6dc:M 6dd:A 6de:N 6df-6e4:M 6e5-6e6:R 6e7-6e8:M 6e9:N
   6ea-6ed:M 6ee-6ef:R 6f0-6f9:E 6fa-710:R 711:M 712-72f:R 730-74a:M 74b-7a5:R 7a6-7b0:M 7b1-7ea:R 7eb-7f3:M
   7f4-7f5:R 7f6-7f9:N 7fa-7fc:R 7fd:M 7fe-815:R 816-819:M 81a:R 81b-823:M 824:R 825-827:M 828:R 829-82d:M
   82e-858:R 859-85b:M 85c-88f:R 890-891:A 892-896:R 897-89f:M 8a0-8c9:R 8ca-8e1:M 8e2:A 8e3-902:M 93a:M 93c:M
   941-948:M 94d:M 951-957:M 962-963:M 981:M 9bc:M 9c1-9c4:M 9cd:M 9e2-9e3:M 9f2-9f3:N 9fb:N 9fe:M a01-a02:M a3c:M
   a41-a42:M a47-a48:M a4b-a4d:M a51:M a70-a71:M a75:M a81-a82:M abc:M ac1-ac5:M ac7-ac8:M acd:M ae2-ae3:M af1:N
   afa-aff:M b01:M b3c:M b3f:M b41-b44:M b4d:M b55-b56:M b62-b63:M b82:M bc0:M bcd:M bf3-bfa:N c00:M c04:M c3c:M
   c3e-c40:M c46-c48:M c4a-c4d:M c55-c56:M c62-c63:M c78-c7e:N c81:M cbc:M ccc-ccd:M ce2-ce3:M d00-d01:M d3b-d3c:M
   d41-d44:M d4d:M d62-d63:M d81:M dca:M dd2-dd4:M dd6:M e31:M e34-e3a:M e3f:N e47-e4e:M eb1:M eb4-ebc:M ec8-ece:M
   f18-f19:M f35:M f37:M f39:M f3a-f3d:N f71-f7e:M f80-f84:M f86-f87:M f8d-f97:M f99-fbc:M fc6:M 102d-1030:M
   1032-1037:M 1039-103a:M 103d-103e:M 1058-1059:M 105e-1060:M 1071-1074:M 1082:M 1085-1086:M 108d:M 109d:M
   135d-135f:M 1390-1399:N 1400:N 1680:X 169b-169c:N 1712-1714:M 1732-1733:M 1752-1753:M 1772-1773:M 17b4-17b5:M
   17b7-17bd:M 17c6:M 17c9-17d3:M 17db:N 17dd:M 17f0-17f9:N 1800-180a:N 180b-180d:M 180e:N 180f:M 1885-1886:M
   18a9:M 1920-1922:M 1927-1928:M 1932:M 1939-193b:M 1940:N 1944-1945:N 19de-19ff:N 1a17-1a18:M 1a1b:M 1a56:M
   1a58-1a5e:M 1a60:M 1a62:M 1a65-1a6c:M 1a73-1a7c:M 1a7f:M 1ab0-1add:M 1ae0-1aeb:M 1b00-1b03:M 1b34:M 1b36-1b3a:M
   1b3c:M 1b42:M 1b6b-1b73:M 1b80-1b81:M 1ba2-1ba5:M 1ba8-1ba9:M 1bab-1bad:M 1be6:M 1be8-1be9:M 1bed:M 1bef-1bf1:M
   1c2c-1c33:M 1c36-1c37:M 1cd0-1cd2:M 1cd4-1ce0:M 1ce2-1ce8:M 1ced:M 1cf4:M 1cf8-1cf9:M 1dc0-1dff:M 1fbd:N
   1fbf-1fc1:N 1fcd-1fcf:N 1fdd-1fdf:N 1fed-1fef:N 1ffd-1ffe:N 2000-200a:X 200b-200d:N 200f:R 2010-2027:N
   2028-202e:X 202f-205e:N 205f:X 2060-2065:N 2066-2069:X 206a-206f:N 2070:E 2074-2079:E 207a-207e:N 2080-2089:E
   208a-208e:N 20a0-20cf:N 20d0-20f0:M 2100-2101:N 2103-2106:N 2108-2109:N 2114:N 2116-2118:N 211e-2123:N 2125:N
   2127:N 2129:N 212e:N 213a-213b:N 2140-2144:N 214a-214d:N 2150-215f:N 2189-218b:N 2190-2335:N 237b-2394:N
   2396-2426:N 2440-244a:N 2460-2487:N 2488-249b:E 24ea-26ab:N 26ad-27ff:N 2900-2b73:N 2b76-2b95:N 2b97-2bff:N
   2ce5-2cea:N 2cef-2cf1:M 2cf9-2cff:N 2d7f:M 2de0-2dff:M 2e00-2e5d:N 2e80-2e99:N 2e9b-2ef3:N 2f00-2fd5:N
   2ff0-2ffb:N 3000:X 3001-3004:N 3008-3020:N 302a-302d:M 3030:N 3036-3037:N 303d-303f:N 3099-309a:M 309b-309c:N
   30a0:N 30fb:N 31c0-31e3:N 321d-321e:N 3250-325f:N 327c-327e:N 32b1-32bf:N 32cc-32cf:N 3377-337a:N 33de-33df:N
   33ff:N 4dc0-4dff:N a490-a4c6:N a60d-a60f:N a66f-a672:M a673:N a674-a67d:M a67e-a67f:N a69e-a69f:M a6f0-a6f1:M
   a700-a721:N a788:N a802:M a806:M a80b:M a825-a826:M a828-a82b:N a82c:M a838-a839:N a874-a877:N a8c4-a8c5:M
   a8e0-a8f1:M a8ff:M a926-a92d:M a947-a951:M a980-a982:M a9b3:M a9b6-a9b9:M a9bc-a9bd:M a9e5:M aa29-aa2e:M
   aa31-aa32:M aa35-aa36:M aa43:M aa4c:M aa7c:M aab0:M aab2-aab4:M aab7-aab8:M aabe-aabf:M aac1:M aaec-aaed:M
   aaf6:M ab6a-ab6b:N abe5:M abe8:M abed:M fb1d:R fb1e:M fb1f-fb28:R fb29:N fb2a-fd3d:R fd3e-fd4f:N fd50-fdce:R
   fdcf-fdef:N fdf0-fdfc:R fdfd-fdff:N fe00-fe0f:M fe10-fe19:N fe20-fe2f:M fe30-fe52:N fe54-fe66:N fe68-fe6b:N
   fe70-fefe:R feff:N ff01-ff0f:N ff10-ff19:E ff1a-ff20:N ff3b-ff40:N ff5b-ff65:N ffe0-ffe6:N ffe8-ffee:N
   fff0-ffff:N 10101:N 10140-1018c:N 10190-1019c:N 101a0:N 101fd:M 102e0:M 102e1-102fb:E 10376-1037a:M
   10800-1091e:R 1091f:N 10920-10a00:R 10a01-10a03:M 10a04:R 10a05-10a06:M 10a07-10a0b:R 10a0c-10a0f:M
   10a10-10a37:R 10a38-10a3a:M 10a3b-10a3e:R 10a3f:M 10a40-10ae4:R 10ae5-10ae6:M 10ae7-10b38:R 10b39-10b3f:N
   10b40-10d23:R 10d24-10d27:M 10d28-10d2f:R 10d30-10d39:A 10d3a-10d68:R 10d69-10d6d:M 10d6e-10e5f:R 10e60-10e7e:A
   10e7f-10eaa:R 10eab-10eac:M 10ead-10ef9:R 10efa-10eff:M 10f00-10f45:R 10f46-10f50:M 10f51-10f81:R 10f82-10f85:M
   10f86-10fff:R 11001:M 11038-11046:M 11052-11065:N 11070:M 11073-11074:M 1107f-11081:M 110b3-110b6:M
   110b9-110ba:M 110c2:M 11100-11102:M 11127-1112b:M 1112d-11134:M 11173:M 11180-11181:M 111b6-111be:M
   111c9-111cc:M 111cf:M 1122f-11231:M 11234:M 11236-11237:M 1123e:M 11241:M 112df:M 112e3-112ea:M 11300-11301:M
   1133b-1133c:M 11340:M 11366-1136c:M 11370-11374:M 113bb-113c0:M 113ce:M 113d0:M 113d2:M 113e1-113e2:M
   11438-1143f:M 11442-11444:M 11446:M 1145e:M 114b3-114b8:M 114ba:M 114bf-114c0:M 114c2-114c3:M 115b2-115b5:M
   115bc-115bd:M 115bf-115c0:M 115dc-115dd:M 11633-1163a:M 1163d:M 1163f-11640:M 11660-1166c:N 116ab:M 116ad:M
   116b0-116b5:M 116b7:M 1171d-1171f:M 11722-11725:M 11727-1172b:M 1182f-11837:M 11839-1183a:M 1193b-1193c:M
   1193e:M 11943:M 119d4-119d7:M 119da-119db:M 119e0:M 11a01-11a06:M 11a09-11a0a:M 11a33-11a38:M 11a3b-11a3e:M
   11a47:M 11a51-11a56:M 11a59-11a5b:M 11a8a-11a96:M 11a98-11a99:M 11b60:M 11b62-11b64:M 11b66:M 11c30-11c36:M
   11c38-11c3d:M 11c92-11ca7:M 11caa-11cb0:M 11cb2-11cb3:M 11cb5-11cb6:M 11d31-11d36:M 11d3a:M 11d3c-11d3d:M
   11d3f-11d45:M 11d47:M 11d90-11d91:M 11d95:M 11d97:M 11ef3-11ef4:M 11f00-11f01:M 11f36-11f3a:M 11f40:M 11f42:M
   11f5a:M 11fd5-11ff1:N 13440:M 13447-13455:M 1611e-16129:M 1612d-1612f:M 16af0-16af4:M 16b30-16b36:M 16f4f:M
   16f8f-16f92:M 16fe2:N 16fe4:M 1bc9d-1bc9e:M 1bca0-1bca3:N 1cf00-1cf2d:M 1cf30-1cf46:M 1d167-1d169:M
   1d173-1d17a:N 1d17b-1d182:M 1d185-1d18b:M 1d1aa-1d1ad:M 1d1e9-1d1ea:N 1d200-1d241:N 1d242-1d244:M 1d245:N
   1d300-1d356:N 1d6db:N 1d715:N 1d74f:N 1d789:N 1d7c3:N 1d7ce-1d7ff:E 1da00-1da36:M 1da3b-1da6c:M 1da75:M 1da84:M
   1da9b-1da9f:M 1daa1-1daaf:M 1e000-1e006:M 1e008-1e018:M 1e01b-1e021:M 1e023-1e024:M 1e026-1e02a:M 1e08f:M
   1e130-1e136:M 1e2ae:M 1e2ec-1e2ef:M 1e2ff:N 1e4ec-1e4ef:M 1e5ee-1e5ef:M 1e6e3:M 1e6e6:M 1e6ee-1e6ef:M 1e6f5:M
   1e800-1e8cf:R 1e8d0-1e8d6:M 1e8d7-1e943:R 1e944-1e94a:M 1e94b-1eeef:R 1eef0-1eef1:N 1eef2-1efff:R 1f000-1f02b:N
   1f030-1f093:N 1f0a0-1f0ae:N 1f0b1-1f0bf:N 1f0c1-1f0cf:N 1f0d1-1f0f5:N 1f100-1f10a:E 1f10b-1f10f:N 1f12f:N
   1f16a-1f16f:N 1f1ad:N 1f260-1f265:N 1f300-1f6d7:N 1f6dc-1f6ec:N 1f6f0-1f6fc:N 1f700-1f776:N 1f77b-1f7d9:N
   1f7e0-1f7eb:N 1f7f0:N 1f800-1f80b:N 1f810-1f847:N 1f850-1f859:N 1f860-1f887:N 1f890-1f8ad:N 1f8b0-1f8b1:N
   1f900-1fa53:N 1fa60-1fa6d:N 1fa70-1fa7c:N 1fa80-1fa88:N 1fa90-1fabd:N 1fabf-1fac5:N 1face-1fadb:N 1fae0-1fae8:N
   1faf0-1faf8:N 1fb00-1fb92:N 1fb94-1fbca:N 1fbf0-1fbf9:E 1fffe-1ffff:N 2fffe-2ffff:N 3fffe-3ffff:N 4fffe-4ffff:N
   5fffe-5ffff:N 6fffe-6ffff:N 7fffe-7ffff:N 8fffe-8ffff:N 9fffe-9ffff:N afffe-affff:N bfffe-bffff:N cfffe-cffff:N
   dfffe-e00ff:N e0100-e01ef:M e01f0-e0fff:N efffe-effff:N ffffe-fffff:N 10fffe-10ffff:N"

end EdgeCache.Unicode
