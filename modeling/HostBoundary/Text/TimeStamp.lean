-- SUMMARY: The forms of time stamps, and texts in which whatever has such a form is hidden.

/-!
# Time stamps

A time stamp has a fixed form: digits, with certain characters between them. Texts that are to be
compared hide their time stamps. As a stamp is known by its form alone, whatever has the form is
hidden, from left to right, whoever wrote it and whether it is a time or not.
-/

namespace HostBoundary

namespace TimeStamp

/-- The form of the stamp of a record in a log; `0` stands for any digit. -/
def logForm : List Char := "[0000-00-00 00:00:00]".toList

/-- The form of the stamp of an event on the console; `0` stands for any digit. -/
def eventForm : List Char := "0000-00-00T00:00:00.000000Z".toList

/-- Whether some characters start with a text of the form. -/
def startsWith : List Char → List Char → Bool
  | [], _ => true
  | _ :: _, [] => false
  | f :: form, c :: cs => (if f = '0' then c.isDigit else c == f) && startsWith form cs

/-- The characters with others shown for every part that has the form; the first `skip` of them have
been dealt with. -/
def hideFrom (form shown : List Char) : Nat → List Char → List Char
  | _, [] => []
  | skip + 1, _ :: cs => hideFrom form shown skip cs
  | 0, c :: cs =>
    if startsWith form (c :: cs) then shown ++ hideFrom form shown (form.length - 1) cs
    else c :: hideFrom form shown 0 cs

/-- The characters with others shown for every part that has the form. -/
def hide (form shown cs : List Char) : List Char := hideFrom form shown 0 cs

/-- The text of a log with another text shown for the time in each stamp. -/
def hideInLog (shown text : String) : String :=
  String.ofList (hide logForm ('[' :: (shown.toList ++ [']'])) text.toList)

/-- What is on the console, with a text shown for each stamp. -/
def hideInEvents (shown : String) (cs : List Char) : List Char := hide eventForm shown.toList cs

end TimeStamp

end HostBoundary
