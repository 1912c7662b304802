import TenderQuery.Model.Canned

/-!
# The demonstration model

Canned answers to the questions that a demonstration is likely to hear.
-/
set_option autoImplicit false
namespace TenderQuery.Model

def demoResponses : List (String × String) :=
  [ ("biggest",
      "SELECT TOP 1 ProjectName, Value, Status, Type, OpenDate FROM tenderTender ORDER BY Value DESC"),
    ("how many tenders", "SELECT COUNT(*) AS TotalTenders FROM tenderTender"),
    ("by type",
      "SELECT Type, COUNT(*) AS TenderCount FROM tenderTender GROUP BY Type ORDER BY TenderCount DESC"),
    ("recent",
      "SELECT TOP 10 ProjectName, Value, Status, OpenDate FROM tenderTender ORDER BY OpenDate DESC"),
    ("companies", "SELECT TOP 20 Name, Industry FROM tenderCompany ORDER BY Name") ]

def demoScript : Script where
  responses := demoResponses.map fun (key, sql) => (key, [.text sql])

end TenderQuery.Model
