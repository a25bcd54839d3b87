import Infill.Unicode.Table

/-!
# Ages

The version of the standard that first assigned each code point.
-/

namespace Infill.Unicode

/-- The version that first assigned each run of code points, `none` where nothing is assigned,
and the length of the run, in code point order from zero on. -/
def ageRows : List String := [
  "01.11f6 03.04 01.11e 03.08 03.21 04.01 03.012 04.03 04.1b 05.0e 01.159 03.05 04.02 01.12f",
  "03.01 01.1a 03.05 04.011 01.146 03.09 03.21 04.08 04.15 04.03 01.12 03.01 03.2d 05.14",
  "01.12 05.12 none2 01.11 05.03 01.11 07.01 none4 01.17 none1 01.11 none1 01.114 none1",
  "01.12c 05.11 01.17 03.01 03.22 01.11 03.01 01.11 03.01 01.11 03.01 01.11 03.01 01.112",
  "03.12 03.21 04.05 04.14 03.01 01.1c 03.01 01.142 03.01 01.1c 03.01 01.129 05.11 03.02",
  "03.22 03.04 01.135 03.22 01.12 03.22 01.12 03.22 05.01 01.11c 03.02 01.18 04.12 01.12",
  "05.06 03.210 05.04 05.110 05.22 06.02 07.08 none1 01.126 none2 01.17 11.01 01.127 11.01",
  "01.11 03.01 none2 07.02 06.11 none1 02.011 04.11 02.0d 01.1a 05.01 01.19 02.01 04.13 none8",
  "01.11b none4 11.01 01.15 noneb 04.04 06.11 07.01 05.15 04.11 01.11 04.09 05.15 01.11 06.31",
  "14.01 04.11 01.11 06.01 01.11a 05.15 01.113 03.03 04.03 04.16 06.01 01.1e 03.22 01.148",
  "03.02 01.15 03.01 01.1f 03.01 01.11e 04.02 01.1a 03.05 04.01 03.0e none1 03.01e 04.03",
  "03.01b none2 04.03 04.11e 05.112 03.031 03.21 nonee 05.03b none2 11.03 05.22e none2 05.2f",
  "none1 06.01c none2 06.01 none1 10.0b none5 14.01f none1 14.02 none6 14.08 06.11 07.01",
  "06.1b 07.06 08.02 14.01 09.08 13.0a 14.0b 11.01 09.0f 08.01 06.11b 07.01 05.21 01.13 04.01",
  "01.135 06.02 01.112 05.21 06.01 01.15 05.21 06.02 01.119 05.12 06.05 07.01 05.22 05.02",
  "04.11 05.02 07.01 01.13 none1 01.18 none2 01.12 none2 01.116 none1 01.17 none1 01.11 none3",
  "01.14 none2 01.11 04.01 01.17 none2 01.12 none2 01.13 04.11 none8 01.11 none4 01.12 none1",
  "01.15 none2 01.115 05.21 10.02 11.01 none2 04.01 01.11 04.01 none1 01.16 none4 01.12 none2",
  "01.116 none1 01.17 none1 01.12 none1 01.12 none1 01.12 none2 01.11 none1 01.15 none4 01.12",
  "none2 01.13 none3 05.11 none7 01.14 none1 01.11 none7 01.1f 05.11 11.01 nonea 01.13 none1",
  "01.17 04.01 01.11 none1 01.13 none1 01.116 none1 01.17 none1 01.12 none1 01.15 none2 01.1a",
  "none1 01.13 none1 01.13 none2 01.11 nonef 01.11 04.03 none2 01.1a 06.11 04.01 none7 08.01",
  "10.06 none1 01.13 none1 01.18 none2 01.12 none2 01.116 none1 01.17 none1 01.12 none1 04.01",
  "01.14 none2 01.18 05.11 none2 01.12 none2 01.13 none7 13.01 01.12 none4 01.12 none1 01.13",
  "05.12 none2 01.1b 04.01 06.06 nonea 01.12 none1 01.16 none3 01.13 none1 01.14 none3 01.12",
  "none1 01.11 none1 01.12 none3 01.12 none3 01.13 none3 01.18 04.11 01.13 none4 01.15 none3",
  "01.13 none1 01.14 none2 05.11 none6 01.11 nonee 04.11 01.1c 04.08 none5 07.01 01.13 11.01",
  "01.18 none1 01.13 none1 01.117 none1 01.1a 07.01 01.15 none2 14.01 05.11 01.17 none1 01.13",
  "none1 01.14 none7 01.12 none1 05.12 08.01 none2 14.01 none2 01.12 05.12 none2 01.1a none7",
  "12.01 05.18 09.01 07.01 01.12 11.01 01.18 none1 01.13 none1 01.117 none1 01.1a none1 01.15",
  "none2 04.02 01.17 none1 01.13 none1 01.14 none7 01.12 none6 14.01 01.11 none1 01.12 05.02",
  "none2 01.1a none1 05.02 15.01 nonec 10.01 07.01 01.12 13.01 01.18 none1 01.13 none1 01.117",
  "06.01 01.110 06.01 10.02 05.11 01.16 05.11 none1 01.13 none1 01.14 06.01 09.01 none4 09.03",
  "01.11 09.07 08.01 01.12 05.12 none2 01.1a 05.16 09.03 05.17 none1 13.01 03.02 none1 03.012",
  "none3 03.018 none1 03.09 none1 03.01 none2 03.07 none3 03.01 none4 03.06 none1 03.01 none1",
  "03.08 none6 07.0a none2 03.03 nonec 01.13a none4 01.11d none25 01.12 none1 01.11 none1",
  "12.01 01.12 12.01 01.11 none1 12.01 01.11 12.06 01.14 12.01 01.17 12.01 01.13 none1 01.11",
  "none1 01.11 12.02 01.12 12.01 01.1d 12.01 01.13 none2 01.15 none1 01.11 none1 01.16 15.01",
  "none1 01.1a none2 01.12 06.12 none20 02.048 none1 02.021 03.01 05.12 none4 02.01b 06.04",
  "02.06 03.01 02.01 none1 02.015 03.03 02.07 03.01 02.01 03.03 none1 03.0f none1 05.11 03.01",
  "04.12 05.13 05.24 06.02 none25 03.022 05.11 03.05 05.11 03.02 05.11 03.07 05.13 03.04",
  "05.16 03.01a 05.140 05.24 05.12 01.126 none1 06.11 none5 06.11 none2 01.127 03.22 04.12",
  "01.11 04.11 06.13 01.15a 05.25 01.144 05.25 01.152 05.26 03.07 04.11 03.03f 04.11 03.01",
  "none1 03.04 none2 03.07 none1 03.01 none1 03.04 none2 03.027 04.11 03.01 none1 03.04 none2",
  "03.01f 04.11 03.01 none1 03.04 none2 03.07 none1 03.01 none1 03.04 none2 03.07 04.11 03.07",
  "none1 03.017 04.11 03.01f 04.11 03.01 none1 03.04 none2 03.07 04.11 03.027 04.11 03.013",
  "none2 06.02 04.12 03.01c none3 04.11a none6 03.055 08.01 none2 08.06 none2 05.21 03.0276",
  "05.29 03.01d none3 03.051 07.08 none7 03.2d 14.01 03.27 14.01 none9 14.01 03.217 none9",
  "03.214 nonec 03.2d none1 03.23 none1 03.22 nonec 03.05d 04.01 none2 03.0a none6 04.0a",
  "none6 03.0f 14.01 03.0a none6 03.058 11.01 none7 03.02a 05.11 none5 05.246 nonea 04.01d",
  "07.02 none1 04.0c none4 04.0c none4 04.01 none3 04.02a none2 04.05 noneb 04.12a 05.22",
  "none4 04.11a none6 04.1a 05.21 none3 04.12 04.020 04.11c none2 04.12 05.23f none1 05.21d",
  "none2 05.2b none6 05.2a none6 05.2e none2 07.0f 13.02 14.0e none31 05.04c 14.01 none3",
  "05.02d 14.02 none1 05.12b 06.13 05.1c 06.16 06.034 none8 06.04 05.138 none3 05.1f none3",
  "05.133 09.09 none7 11.02b none2 11.03 06.18 none8 05.223 06.14 10.01 07.02 12.01 none5",
  "04.06c 04.158 05.07 05.11c 07.0f 10.04 14.01 09.01 06.01 05.21 05.02 01.19b 02.01 05.14",
  "01.15a 05.16 01.116 none2 01.16 none2 01.126 none2 01.16 none2 01.18 none1 01.11 none1",
  "01.11 none1 01.11 none1 01.11f none2 01.135 none1 01.1f none1 01.1e none2 01.16 none1",
  "01.113 none2 01.13 none1 01.19 none1 01.12f 03.01 01.117 03.21 03.06 03.25 04.02 04.12",
  "03.21 04.17 03.25 05.11 none1 06.34 01.17 03.21 none2 01.11b none1 04.15 06.08 none3 01.1b",
  "02.01 02.11 03.03 03.22 04.14 05.23 06.01 06.21 07.03 08.01 10.01 14.01 nonef 01.112 03.02",
  "03.27 04.11 05.04 05.11 nonef 01.139 03.02 04.01 04.11 03.2f 04.11 05.02 05.11 05.23",
  "01.130 03.01 05.01 05.14 05.21 08.02 none4 01.15b 03.09 03.2c 01.1f2 03.2e 01.11 03.01",
  "01.179 03.01 03.21 03.01e 03.234 04.02 04.1b 05.0c 05.21 06.0b 07.07 09.04 10.01 01.125",
  "03.02 none19 01.1b none15 01.18b 03.214 04.01 01.196 03.2a 01.150 03.08 03.28 01.114 04.02",
  "03.22 04.11 03.01 01.156 03.02 03.2c 04.12 03.2a 04.08 04.1b 05.11 05.22 04.02 04.110",
  "05.01 05.1a 05.23 05.14 05.2a 06.01 05.213 06.01 05.21 06.04 05.218 07.01 01.14 06.01",
  "01.14 06.02 01.11c 06.01 01.123 06.01 01.11 06.01 01.14 06.03 01.11 05.21 01.17 06.02",
  "01.17 03.2e 01.11f 06.03 01.118 06.01 01.1e 06.01 04.17 05.04 06.11 05.11 06.11 06.02",
  "03.21c 05.14 03.210 03.0100 03.2200 04.0e 04.16 05.07 05.15 05.04 05.129 07.03 05.15 05.25",
  "07.01a none2 07.020 none1 13.01 07.022 11.03 07.0c 12.01 07.08 10.01 11.019 08.04 11.0f",
  "12.01 04.12f 14.01 04.12f 14.01 05.0d 05.13 05.21 05.13 05.04 05.16 05.22 04.16b 05.27",
  "06.12 none5 04.12d none1 06.11 none5 06.11 none2 04.136 06.12 none7 04.11 06.01 nonee",
  "06.01 04.117 none9 04.17 none1 04.17 none1 04.17 none1 04.17 none1 04.17 none1 04.17 none1",
  "04.17 none1 04.17 none1 05.120 04.118 05.14 04.12 05.113 05.21 06.1a 07.07 09.02 10.05",
  "11.05 12.01 13.03 14.0b none22 03.01a none1 03.059 nonec 03.0d6 none1a 03.0c none4 01.138",
  "03.03 03.23 03.01 01.11 none1 01.154 03.22 none2 01.16 03.22 01.15e 03.21 none5 01.128",
  "05.11 10.01 11.01 none1 01.15e none1 01.110 03.018 06.03 13.05 04.110 05.114 nonec 03.210",
  "01.11d 04.02 none1 01.124 05.2c 04.01 03.2f 01.11c 04.02 04.11 01.132 03.2f 01.1c 04.04",
  "01.12f 12.11 01.177 04.04 01.163 04.02 01.11f 04.01 03.019b6 13.0a 04.040 01.151a6 04.116",
  "05.18 05.28 06.11 08.09 10.015 11.05 13.0d 14.03 03.048d none3 03.012 03.22 03.010 03.21",
  "03.0c 03.21 03.03 03.21 03.01 none9 05.230 05.112c none14 05.120 06.02 05.112 06.18 05.11c",
  "07.06 08.01 06.11 05.258 none8 04.117 05.04 05.15 05.02 05.16b 06.02 08.01 06.02 06.12",
  "07.0c 06.0a 06.11 07.03 09.01 11.01 07.02 08.06 11.02 12.06 14.02 12.05 13.04 none5 14.02",
  "none1 14.01 none1 14.05 none18 14.03 13.02 07.01 06.12 06.01 05.15 04.12c 13.01 none3",
  "05.2a none6 05.038 none8 05.145 09.01 none8 05.1c none6 05.21c 08.02 11.02 05.154 noneb",
  "05.11 05.21d none3 05.24e none1 05.2b none4 05.22 07.01f none1 05.137 none9 05.1e none2",
  "05.1a none2 05.14 05.21c 07.04 05.243 none18 05.25 06.117 nonea 06.06 none2 06.06 none2",
  "06.06 none9 06.07 none1 06.07 none1 07.030 08.04 07.02 12.02 13.04 none4 08.050 05.22e",
  "none2 05.2a none6 02.02ba4 nonec 05.217 none4 05.231 none4 02.0800 01.11a2e 06.12 03.23b",
  "05.23 none2 04.16a none26 01.17 nonec 01.15 none5 03.01 01.119 none1 01.15 none1 01.11",
  "none1 01.12 none1 01.12 none1 01.16c 06.010 14.01 none10 01.116d 14.010 01.140 none2",
  "01.136 none7 14.01 03.120 01.1c 03.21 04.01 14.02 03.210 04.1a none6 01.14 05.13 07.07",
  "08.02 01.115 03.22 04.02 01.1a none1 01.113 none1 01.14 none4 01.13 03.21 01.11 none1",
  "01.187 none2 01.11 none1 01.15e 03.22 01.15e none3 01.16 none2 01.16 none2 01.16 none2",
  "01.13 none3 01.17 none1 01.17 nonea 03.03 02.11 01.13 04.0c none1 04.01a none1 04.013",
  "none1 04.02 none1 04.0f none2 04.0e none22 04.07b none5 04.03 none4 04.02d none3 04.09",
  "04.14b 07.02 09.02 none1 05.1c 13.01 none3 07.01 none2f 05.12e none82 05.11d none3 05.131",
  "nonef 07.01c none4 03.11f 07.01 03.14 none9 10.03 03.11b none5 07.02b none5 04.01e none1",
  "04.01 04.124 none4 04.1e none2a 03.126 04.02 03.126 04.050 none2 04.0a none6 09.024 none4",
  "09.024 none4 07.028 none8 07.034 noneb 07.01 14.0b none1 14.0f none1 14.07 none1 14.02",
  "none1 14.0b none1 14.0f none1 14.07 none1 14.02 none43 07.0137 none9 07.016 nonea 07.08",
  "none18 14.06 none1 14.02a none1 14.09 none45 04.06 none2 04.01 none1 04.02c none1 04.02",
  "none3 04.01 none2 04.01 05.216 none1 05.29 07.03f none8 07.09 none30 08.013 none1 08.02",
  "none5 08.05 05.01a 05.22 none3 05.01 05.11a none5 05.11 none40 06.138 none4 08.02 06.12",
  "08.010 none2 08.02e 04.14 none1 04.12 none5 04.18 none1 04.13 none1 04.11b 11.02 none2",
  "04.13 none4 04.19 11.01 none7 04.19 none7 05.220 07.020 none20 07.027 none4 07.0c none9",
  "05.236 none3 05.21d none2 05.21b none5 05.28 07.012 none7 07.04 nonec 07.07 none50 05.249",
  "none37 08.033 noned 08.033 none7 08.06 11.028 none8 11.0a none126 05.21f none1 13.02a",
  "none1 13.03 none2 13.02 none4b 15.03 11.028 none8 11.02a none16 14.01a none26 13.01c",
  "none14 12.017 none9 06.04e none4 06.01e 14.06 none9 07.01 05.242 14.01 nonea 11.01 none2",
  "06.119 none7 06.1a none6 06.135 none1 06.1e 11.03 13.01 none8 07.027 none9 06.149 08.04",
  "07.01 13.02 06.1a 07.01 08.05 none1 07.014 noneb 07.012 none1 07.02b 09.01 15.03 none3e",
  "08.07 none1 08.01 none1 08.04 none1 08.0f none1 08.0b none6 07.03b none5 07.0a none6 08.01",
  "07.03 none1 07.08 none2 07.02 none2 07.016 none1 07.07 none1 07.02 none1 07.05 none1 11.01",
  "07.09 none2 07.02 none2 07.03 none2 08.01 none6 07.01 none5 07.07 none2 07.07 none3 07.05",
  "none8b 09.05a 13.01 09.01 none1 09.01 11.01 12.01 13.02 none1e 07.048 none8 07.0a nonea6",
  "07.036 none2 07.012 08.014 none22 07.045 noneb 07.0a none6 09.0d none13 06.138 12.01 14.01",
  "none6 06.1a none36 08.01a 11.01 none2 08.0f none4 08.010 14.07 noneb9 11.03c none64 07.053",
  "nonec 07.01 13.07 none2 13.01 none2 13.08 none1 13.02 none1 13.01e none1 13.02 none2 13.0c",
  "none9 13.0a none46 12.08 none2 12.02e none2 12.0b none1b 10.048 none8 10.034 12.02 10.017",
  "11.01 10.05 noned 14.010 07.039 none7 15.0a nonef6 09.09 none1 09.02d none1 09.0e nonea",
  "09.01d none3 09.020 none2 09.016 none1 09.0e none49 10.07 none1 10.02 none1 10.02c none3",
  "10.01 none1 10.02 none1 10.09 none8 10.0a none6 11.06 none1 11.02 none1 11.025 none1 11.02",
  "none1 11.06 none7 11.0a none136 11.019 none7 15.011 none1 15.029 none3 15.01c none56 13.01",
  "nonef 12.032 noned 12.01 05.036f 07.02a 08.01 none66 05.063 07.0c none1 05.04 07.01 noneb",
  "08.0c4 nonea4c 14.063 noned 05.242f 15.01 12.09 15.01d nonefaa 08.0247 none21b9 06.0239",
  "none7 07.01f none1 07.0a none4 07.02 14.04f none1 14.0a none6 07.01e none2 07.06 nonea",
  "07.046 nonea 07.0a none1 07.07 none1 07.015 none5 07.013 none2b0 11.05b none65 06.145",
  "12.06 none4 12.01 06.12f 12.09 none7 06.111 none40 09.01 10.01 12.02 13.01 noneb 13.02",
  "nonee 09.017ed 11.05 12.06 none8 09.02f3 13.01e3 none2a 13.09 none22e7 14.04 none1 14.07",
  "none1 14.02 none1 06.02 10.011d 14.04 nonef 15.01 none1d 12.03 none2 15.01 nonee 12.04",
  "none8 10.018c none904 07.06b none5 07.0d none3 07.09 none7 07.0a none2 07.08 none125c",
  "14.02e none2 14.017 none9 14.074 none3c 03.1f6 nonea 03.127 none2 05.11 03.1b4 08.0b 14.02",
  "none15 04.146 none7a 15.014 nonec 11.014 nonec 04.057 none9 05.012 11.07 none87 03.155",
  "none1 03.147 none1 03.12 none2 03.11 none2 03.12 none2 03.14 none1 03.1c none1 03.11 none1",
  "03.14 04.01 03.12 none1 03.141 none1 03.14 none2 03.18 none1 03.17 none1 03.11c none1",
  "03.14 none1 03.15 none1 03.11 none3 03.17 none1 03.1152 04.12 none2 03.1122 05.02 none2",
  "03.132 08.028c nonef 08.05 none1 08.0f none450 14.01f none6 15.06 noned5 09.07 none1",
  "09.011 none2 09.07 none1 09.02 none1 09.05 none5 15.03e none21 15.01 none70 12.02d none3",
  "12.0e none2 12.0a none4 12.02 none140 14.01f none11 12.03a none5 12.01 none1d0 15.02a",
  "none2e6 14.07 none1 14.04 none1 14.02 none1 14.0f none1 07.0c5 none2 07.010 none29 09.04b",
  "12.01 none4 09.0a none4 09.02 none311 11.044 none4c 12.03d nonec2 06.14 none1 06.11b none1",
  "06.12 none1 06.11 none2 06.11 none1 06.1a none1 06.14 none1 06.11 none1 06.11 none6 06.11",
  "none4 06.11 none1 06.11 none1 06.11 none1 06.13 none1 06.12 none1 06.11 none2 06.11 none1",
  "06.11 none1 06.11 none1 06.11 none1 06.11 none1 06.12 none1 06.11 none2 06.14 none1 06.17",
  "none1 06.14 none1 06.14 none1 06.11 none1 06.1a none1 06.111 none5 06.13 none1 06.15 none1",
  "06.111 none34 06.12 none10e 05.12c none4 05.164 nonec 06.0f none2 06.0e 07.01 none1 06.0f",
  "none1 06.0f 07.016 nonea 05.2b 07.02 13.03 05.21f 11.01 06.01 05.21 06.0b 05.21 06.01",
  "05.21 06.02 05.21 06.03 05.21 06.03 05.25 06.08 05.21 06.07 05.21 06.0a 06.12 12.01 13.03",
  "06.09 05.21 06.01 05.22 06.02 05.21 06.0a 05.24 06.02 05.21 06.0a 09.012 13.01 none38",
  "06.01a 05.21 06.02 noned 05.222 06.09 09.01 none4 05.29 none7 06.02 nonee 10.06 none9a",
  "06.021 07.0c 08.03 06.06 07.01 06.046 07.01 08.02 06.014 07.0c 06.025 07.01 06.05 07.04",
  "08.05 07.0c 06.011 07.07 08.08 06.03f 07.01 06.01 07.01 06.0b6 07.01 06.04 07.02 08.01",
  "06.03e 07.02 06.14 07.07 08.05 06.018 07.012 09.01 07.029 09.01 07.056 06.05 06.11 06.010",
  "06.11 06.03 06.11 06.01 06.11 06.01 06.11 06.01 06.11 06.03 06.11 06.06 06.12 06.04 06.11",
  "06.01 06.12 06.04 06.11 06.0c 07.02 08.02 06.0b 07.030 06.046 07.0a 08.01 09.02 10.02",
  "12.01 13.02 none4 15.01 14.03 07.0d none3 07.04 09.03 10.02 11.01 12.01 13.02 none3 06.074",
  "15.03 none4 15.05 07.055 11.04 15.01 none6 12.0c none4 14.01 nonef 07.0c none4 07.038",
  "none8 07.0a none6 07.028 none8 07.01e none2 13.02 none4e 10.0c 13.01 12.03 08.09 09.06",
  "10.01 09.08 10.08 09.01 10.02 09.0c 12.01 09.0c 10.01 11.03 09.0f 10.0d 11.05 12.01 13.01",
  "11.04 13.02 14.01 11.01 12.01 11.04 08.05 09.0d 10.06 11.0b 13.02 12.06 13.03 12.02 11.0a",
  "12.06 08.01 11.02 12.08 13.01 14.01 12.03 10.017 11.019 12.054 nonec 11.0e none2 12.04",
  "13.01 15.03 12.03 14.02 none3 12.03 13.04 15.02 none7 12.06 13.013 14.04 15.03 13.07 14.04",
  "15.03 none1 15.01 13.03 14.03 none8 15.02 13.07 14.03 15.02 none4 14.08 15.01 none7 14.07",
  "15.02 none7 13.093 none1 13.037 none25 13.0a none404 02.02 03.1a6d7 13.07 14.02 none20",
  "05.21035 14.04 15.01 none6 06.0de none2 08.01682 nonee 10.01d31 nonec1f 03.121e none5e0",
  "02.02 13.0134b none5 15.01060 nonedc4e 02.02 nonefffe 02.02 nonefffe 02.02 nonefffe 02.02",
  "nonefffe 02.02 nonefffe 02.02 nonefffe 02.02 nonefffe 02.02 nonefffe 02.02 nonefffe 02.02",
  "nonefffe 02.02 none1 03.11 none1e 03.160 none80 04.0f0 nonefe0e 02.020002"]

/-- The ages, run by run. -/
def ageRuns : List Run := runsOf 4 ageRows

/-- The versions and the loose names under which each can be asked for. -/
def ageNames : List (String × String) := [
  ("01.1", "1.1"), ("01.1", "v11"), ("02.0", "2.0"), ("02.0", "v20"),
  ("02.1", "2.1"), ("02.1", "v21"), ("03.0", "3.0"), ("03.0", "v30"),
  ("03.1", "3.1"), ("03.1", "v31"), ("03.2", "3.2"), ("03.2", "v32"),
  ("04.0", "4.0"), ("04.0", "v40"), ("04.1", "4.1"), ("04.1", "v41"),
  ("05.0", "5.0"), ("05.0", "v50"), ("05.1", "5.1"), ("05.1", "v51"),
  ("05.2", "5.2"), ("05.2", "v52"), ("06.0", "6.0"), ("06.0", "v60"),
  ("06.1", "6.1"), ("06.1", "v61"), ("06.2", "6.2"), ("06.2", "v62"),
  ("06.3", "6.3"), ("06.3", "v63"), ("07.0", "7.0"), ("07.0", "v70"),
  ("08.0", "8.0"), ("08.0", "v80"), ("09.0", "9.0"), ("09.0", "v90"),
  ("10.0", "10.0"), ("10.0", "v100"), ("11.0", "11.0"), ("11.0", "v110"),
  ("12.0", "12.0"), ("12.0", "v120"), ("12.1", "12.1"), ("12.1", "v121"),
  ("13.0", "13.0"), ("13.0", "v130"), ("14.0", "14.0"), ("14.0", "v140"),
  ("15.0", "15.0"), ("15.0", "v150")]

/-- The code points assigned in the given version or an earlier one. -/
def ageNamed? (name : String) : Option CharSet :=
  (ageNames.find? fun entry => entry.2 == name).map fun entry =>
    CharSet.ofRanges ((ageRuns.filter fun run =>
      run.name != "none".toList && String.ofList run.name ≤ entry.1).map
        fun run => (run.first, run.last))

end Infill.Unicode
