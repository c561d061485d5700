import TagSieve.Unicode.Lowercase
import TagSieve.Unicode.Folding
import TagSieve.Unicode.Sixteen

/-!
Characters that change when their text changes its case, as of Unicode 16.
-/

namespace TagSieve.Unicode

/-- Characters that uppercasing changes and that are no lowercase form of a single character. -/
def uppercaseChangesRanges : Ranges :=
  [(0xB5, 0xB5), (0x131, 0x131), (0x149, 0x149), (0x17F, 0x17F), (0x1C5, 0x1C5), (0x1C8, 0x1C8),
   (0x1CB, 0x1CB), (0x1F0, 0x1F0), (0x1F2, 0x1F2), (0x345, 0x345), (0x390, 0x390), (0x3B0, 0x3B0),
   (0x3C2, 0x3C2), (0x3D0, 0x3D1), (0x3D5, 0x3D6), (0x3F0, 0x3F1), (0x3F5, 0x3F5), (0x587, 0x587),
   (0x1C80, 0x1C88), (0x1E96, 0x1E9B), (0x1F50, 0x1F50), (0x1F52, 0x1F52), (0x1F54, 0x1F54),
   (0x1F56, 0x1F56), (0x1F88, 0x1F8F), (0x1F98, 0x1F9F), (0x1FA8, 0x1FAF), (0x1FB2, 0x1FB2),
   (0x1FB4, 0x1FB4), (0x1FB6, 0x1FB7), (0x1FBC, 0x1FBC), (0x1FBE, 0x1FBE), (0x1FC2, 0x1FC2),
   (0x1FC4, 0x1FC4), (0x1FC6, 0x1FC7), (0x1FCC, 0x1FCC), (0x1FD2, 0x1FD3), (0x1FD6, 0x1FD7),
   (0x1FE2, 0x1FE4), (0x1FE6, 0x1FE7), (0x1FF2, 0x1FF2), (0x1FF4, 0x1FF4), (0x1FF6, 0x1FF7),
   (0x1FFC, 0x1FFC), (0xFB00, 0xFB06), (0xFB13, 0xFB17)]

/-- Characters that only one of uppercasing and titlecasing changes. -/
def titlecaseDifferenceRanges : Ranges :=
  [(0x1C4, 0x1C5), (0x1C7, 0x1C8), (0x1CA, 0x1CB), (0x1F1, 0x1F2), (0x10D0, 0x10FA),
   (0x10FD, 0x10FF), (0x1F88, 0x1F8F), (0x1F98, 0x1F9F), (0x1FA8, 0x1FAF), (0x1FBC, 0x1FBC),
   (0x1FCC, 0x1FCC), (0x1FFC, 0x1FFC)]

/-- Characters that only one of lowercasing and case folding changes. -/
def foldDifferenceRanges : Ranges :=
  [(0xB5, 0xB5), (0xDF, 0xDF), (0x149, 0x149), (0x17F, 0x17F), (0x345, 0x345), (0x3C2, 0x3C2),
   (0x3D0, 0x3D1), (0x3D5, 0x3D6), (0x3F0, 0x3F1), (0x3F5, 0x3F5), (0x587, 0x587), (0x13A0, 0x13F5),
   (0x13F8, 0x13FD), (0x1C80, 0x1C88), (0x1E9A, 0x1E9B), (0x1F80, 0x1F87), (0x1F90, 0x1F97),
   (0x1FA0, 0x1FA7), (0x1FB2, 0x1FB4), (0x1FB7, 0x1FB7), (0x1FC2, 0x1FC4), (0x1FC7, 0x1FC7),
   (0x1FF2, 0x1FF4), (0x1FF7, 0x1FF7), (0xAB70, 0xABBF), (0xFB00, 0xFB06), (0xFB13, 0xFB17)]

/-- The code points that lowercasing changes: those of the rows and the dotted capital I. -/
def changesWhenLowercased : Ranges :=
  Sixteen.earlier <| Ranges.ofPairs <| (0x130, 0x130) ::
    lowercaseRows.flatMap fun row => row.inverse.images 0 Ranges.lastCodePoint

/-- The code points that uppercasing changes: what lowercasing makes of others, and some more. -/
def changesWhenUppercased : Ranges :=
  (Ranges.ofPairs <| changesWhenLowercased.flatMap fun (low, high) =>
    lowercaseRows.flatMap fun row => row.images low high).union uppercaseChangesRanges

def changesWhenTitlecased : Ranges :=
  changesWhenUppercased.symmetricDifference titlecaseDifferenceRanges

def changesWhenFolded : Ranges := changesWhenLowercased.symmetricDifference foldDifferenceRanges

def changesWhenMapped : Ranges :=
  Ranges.unionAll [changesWhenLowercased, changesWhenUppercased, changesWhenTitlecased]

end TagSieve.Unicode
