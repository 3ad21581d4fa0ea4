import GroupAccess.Text.NumberTable

namespace GroupAccess.Domain.DirectionTable

/-- One for right to left, two for Arabic and three for European numbers, four for neutral
characters, five for marks and six for all others that are not left to right. -/
def classes : List NumberTable.Range := NumberTable.ranges
  ["0,9,4 0,5,6 0,e,4 0,5,6 0,f,4 0,a,3 0,27,4 1a,5d,4 1f,1,4 1c1,2,4 7,e,4 2,1c,4 1,11,4 0,70,5",
    "5,1,4 80,1,4 8c,7,5 100,6,4 1,2d,5 0,1,1 0,1,5 0,1,1 0,2,5 0,1,1 0,2,5 0,1,1 0,1,5 8,25,1",
    "11,2,4 0,1,1 0,2,4 0,1,1 0,1,4 0,1,1 0,2,4 0,b,5 0,30,1 0,15,5 0,a,2 0,1,4 0,2,2 0,3,1 0,1,5",
    "0,65,1 0,7,5 1,1,4 0,6,5 0,2,1 0,2,5 0,1,4 0,4,5 0,2,1 0,a,3 0,17,1 0,1,5 0,1e,1 0,1b,5",
    "2,59,1 0,b,5 0,3a,1 0,9,5 0,2,1 0,4,4 0,1,1 2,1,5 0,18,1 0,4,5 0,1,1 0,9,5 0,1,1 0,3,5 0,1,1",
    "0,5,5 2,29,1 0,3,5 2,31,1 9,8,5 0,2a,1 0,39,5 37,1,5 1,1,5 4,8,5 4,1,5 3,7,5 a,2,5 1d,1,5",
    "3a,1,5 4,4,5 8,1,5 14,2,5 e,2,4 7,1,4 2,5,5 39,1,5 4,11,5 1e,2,5 3,1,5 b,2,5 39,1,5 4,8,5",
    "4,1,5 14,2,5 d,1,4 8,8,5 3a,1,5 2,1,5 1,4,5 8,a,5 b,2,5 1e,1,5 3d,1,5 c,1,5 25,8,4 5,1,5",
    "3,1,5 37,1,5 1,3,5 5,11,5 b,2,5 14,7,4 2,1,5 3a,1,5 f,2,5 14,2,5 1c,2,5 39,2,5 4,4,5 8,1,5",
    "14,2,5 1d,1,5 48,1,5 7,5,5 5a,1,5 2,7,5 4,1,4 7,8,5 62,1,5 2,9,5 b,6,5 4a,2,5 1b,1,5 1,1,5",
    "1,1,5 0,4,4 33,e,5 1,5,5 1,2,5 5,30,5 9,1,5 66,4,5 1,6,5 1,2,5 2,2,5 19,2,5 4,3,5 10,4,5",
    "d,1,5 2,2,5 6,1,5 f,1,5 2bf,3,5 30,a,4 66,1,4 29a,2,4 75,3,5 1d,2,5 1e,2,5 1e,2,5 43,7,5",
    "8,1,5 2,b,5 7,1,4 1,1,5 12,1b,4 7a,2,5 22,1,5 76,3,5 4,2,5 9,1,5 6,3,5 4,6,4 98,22,4 17,2,5",
    "2,1,5 3a,1,5 1,9,5 1,1,5 2,8,5 6,d,5 30,1f,5 31,4,5 30,1,5 1,5,5 1,1,5 5,1,5 28,9,5 c,2,5",
    "20,4,5 2,2,5 1,3,5 38,1,5 1,2,5 3,1,5 1,3,5 3a,8,5 2,2,5 98,3,5 1,d,5 1,7,5 4,1,5 6,1,5",
    "3,2,5 c6,40,5 20c,b5,4 f,21,5 13,4a,4 3c,1ac,4 45,1a,4 1,91,4 19,26c,4 1,153,4 100,296,4",
    "1,69,4 e5,6,4 4,3,5 7,7,4 7f,1,5 60,20,5 0,205,4 3,19,4 9,4,5 2,1,4 6,1,4 5,3,4 59,2,5 5,1,4",
    "5a,1,4 c4,24,4 1bdc,40,4 5690,37,4 146,3,4 5f,4,5 0,1,4 0,a,5 0,2,4 1e,2,5 50,2,5 e,22,4",
    "66,1,4 79,1,5 3,1,5 4,1,5 19,2,5 1,4,4 0,1,5 b,2,4 3a,4,4 4c,2,5 1a,12,5 d,1,5 26,8,5 19,b,5",
    "2e,3,5 30,1,5 2,4,5 2,2,5 27,1,5 43,6,5 2,2,5 2,2,5 c,1,5 8,1,5 2f,1,5 33,1,5 1,3,5 2,2,5",
    "5,2,5 1,1,5 2a,2,5 8,1,5 73,2,4 79,1,5 2,1,5 4,1,5 4f30,1,5 93,11,1 17b,12,4 7f,31,4 20,10,5",
    "15,2,4 2c,1,1 28d,1,4 3e,4d,4 3,11,4 5c,1,5 e2,1,5 0,1b,3 7a,5,5 485,11c,1 3,1,4 0,20,1",
    "40,81,1 0,f,5 0,26,1 2,8,5 0,a5,1 0,2,5 4,4b,1 3,7,4 0,1e4,1 0,4,5 8,a,2 126,1f,2 1,2a,1",
    "1,2,5 0,5,1 4e,46,1 0,b,5 0,31,1 0,4,5 0,71,1 a,1,5 36,f,5 b,14,4 a,1,5 2,2,5 a,3,5 31,4,5",
    "2,2,5 7,1,5 3d,3,5 24,5,5 1,8,5 3e,1,5 c,2,5 34,9,5 a,4,5 2,1,5 5f,3,5 2,1,5 1,2,5 6,1,5",
    "a0,1,5 3,8,5 15,2,5 39,2,5 3,1,5 25,f,5 c3,8,5 2,3,5 1,1,5 17,1,5 54,6,5 1,1,5 4,2,5 1,2,5",
    "ee,4,5 6,2,5 1,2,5 1b,2,5 55,8,5 2,1,5 1,2,5 1f,d,4 3e,1,5 1,1,5 2,6,5 1,1,5 65,3,5 2,4,5",
    "1,5,5 103,9,5 1,2,5 100,2,5 1,1,5 4,1,5 90,8,5 4,1,5 20,6,5 2,2,5 28,6,5 2,4,5 8,1,5 9,6,5",
    "2,3,5 2e,d,5 1,2,5 196,e,5 54,16,5 2,7,5 1,2,5 1,2,5 7a,15,5 1,1,5 48,2,5 3,1,5 1,1,5",
    "15b,2,5 e0,1d,4 4afe,5,5 3b,7,5 418,1,5 3f,4,5 4f,1,4 1,1,5 4cb8,2,5 1261,47,5 220,3,5",
    "11,8,5 2,7,5 1e,4,5 3b,59,4 0,3,5 0,1,4 ba,57,4 6a9,37,5 4,32,5 8,1,5 e,1,5 16,15,5 550,2b,5",
    "105,7,5 177,1,5 3d,4,5 f,1,4 500,d0,1 0,7,5 4b,22,1 0,7,5 0,3f3,1 1b2,240,4 3d,3,4 3d,1,4",
    "b2,478,4 5,97,4 c,59,4 7,d2,4 4e,154,4 c,15,4 3,f,4 9,1d,4 3,b,4 5,6,4 a,a,4 6,8,4 8,7,4",
    "9,cb,4"]

end GroupAccess.Domain.DirectionTable
