import FeatureFlags.Pattern.Unicode.Runs

/-!
# Classes of text segmentation

Where a text may be divided into grapheme clusters, words and sentences is told from classes of
characters, one division of the code points into classes for each.  A code point without a class is
in no set.

## What is here

* `graphemeBreakNamed?`, `wordBreakNamed?`, `sentenceBreakNamed?`: the code points of a class.
-/

set_option autoImplicit false

namespace FeatureFlags.Pattern.Unicode

/-! ## Division into grapheme clusters -/

/-- The classes for the division into grapheme clusters, in runs. -/
def graphemeBreakRuns : List String := [
  "10CN 1LF 2CN 1CR 18CN 95- 33CN 13- 1CN 594- 112EX 275- 7EX 263- 45EX 1- 1EX 1- 2EX 1-",
  "2EX 1- 1EX 56- 6PP 10- 11EX 1- 1CN 46- 21EX 16- 1EX 101- 7EX 1PP 1- 6EX 2- 2EX 1- 4EX",
  "33- 1PP 1- 1EX 30- 27EX 91- 11EX 58- 9EX 9- 1EX 24- 4EX 1- 9EX 1- 3EX 1- 5EX 43- 3EX 52-",
  "2PP 5- 9EX 42- 24EX 1PP 32EX 1SM 54- 1EX 1SM 1EX 1- 3SM 8EX 4SM 1EX 2SM 1- 7EX 10- 2EX",
  "29- 1EX 2SM 56- 1EX 1- 1EX 2SM 4EX 2- 2SM 2- 2SM 1EX 9- 1EX 10- 2EX 26- 1EX 2- 2EX 1SM",
  "56- 1EX 1- 3SM 2EX 4- 2EX 2- 3EX 3- 1EX 30- 2EX 3- 1EX 11- 2EX 1SM 56- 1EX 1- 3SM 5EX 1-",
  "2EX 1SM 1- 2SM 1EX 20- 2EX 22- 6EX 1- 1EX 2SM 56- 1EX 1- 2EX 1SM 4EX 2- 2SM 2- 2SM 1EX",
  "7- 3EX 10- 2EX 30- 1EX 59- 1EX 1SM 1EX 2SM 3- 3SM 1- 3SM 1EX 9- 1EX 40- 1EX 3SM 1EX 55-",
  "1EX 1- 3EX 4SM 1- 3EX 1- 4EX 7- 2EX 11- 2EX 29- 1EX 2SM 56- 1EX 1- 1SM 2EX 1SM 1EX 2SM",
  "1- 3EX 1- 4EX 7- 2EX 11- 2EX 15- 1SM 12- 2EX 2SM 55- 2EX 1- 1EX 2SM 4EX 1- 3SM 1- 3SM",
  "1EX 1PP 8- 1EX 10- 2EX 29- 1EX 2SM 70- 1EX 4- 1EX 2SM 3EX 1- 1EX 1- 7SM 1EX 18- 2SM 61-",
  "1EX 1- 1SM 7EX 12- 8EX 98- 1EX 1- 1SM 9EX 11- 7EX 73- 2EX 27- 1EX 1- 1EX 1- 1EX 4- 2SM",
  "49- 14EX 1SM 5EX 1- 2EX 5- 11EX 1- 36EX 9- 1EX 102- 4EX 1SM 6EX 1- 2EX 2SM 2EX 23- 2SM",
  "2EX 4- 3EX 16- 4EX 13- 1EX 1- 1SM 2EX 6- 1EX 15- 1EX 98- 96L 72V 88T 349- 3EX 946- 4EX",
  "28- 3EX 29- 2EX 30- 2EX 64- 2EX 1SM 7EX 8SM 1EX 2SM 11EX 9- 1EX 45- 3EX 1CN 1EX 117- 2EX",
  "34- 1EX 118- 3EX 4SM 2EX 3SM 4- 2SM 1EX 6SM 3EX 219- 2EX 2SM 1EX 57- 1SM 1EX 1SM 7EX 1-",
  "1EX 1- 1EX 2- 8EX 6SM 10EX 2- 1EX 48- 31EX 49- 4EX 1SM 47- 10EX 4SM 3EX 38- 9EX 12- 2EX",
  "1SM 30- 1SM 4EX 2SM 6EX 56- 1EX 1SM 2EX 3SM 1EX 1SM 5EX 48- 8SM 8EX 2SM 2EX 152- 3EX 1-",
  "13EX 1SM 7EX 4- 1EX 6- 1EX 2- 1SM 2EX 198- 64EX 523- 1CN 1EX 1ZWJ 2CN 24- 7CN 49- 16CN",
  "96- 33EX 3070- 3EX 141- 1EX 96- 32EX 554- 6EX 105- 2EX 30164- 4EX 1- 10EX 32- 2EX 80-",
  "2EX 272- 1EX 3- 1EX 4- 1EX 23- 2SM 2EX 1SM 4- 1EX 83- 2SM 50- 16SM 2EX 26- 18EX 13- 1EX",
  "38- 8EX 25- 11EX 1SM 1EX 12- 29L 3- 3EX 1SM 47- 1EX 2SM 4EX 2SM 2EX 2SM 1EX 36- 1EX 67-",
  "6EX 2SM 2EX 2SM 2EX 12- 1EX 8- 1EX 1SM 46- 1EX 51- 1EX 1- 3EX 2- 2EX 5- 2EX 1- 1EX 41-",
  "1SM 2EX 2SM 5- 1SM 1EX 236- 2SM 1EX 2SM 1EX 2SM 1- 1SM 1EX 18- 1LV 27LVT 1LV 27LVT 1LV",
  "27LVT 1LV 27LVT 1LV 27LVT 1LV 27LVT 1LV 27LVT 1LV 27LVT 1LV 27LVT 1LV 27LVT 1LV 27LVT",
  "1LV 27LVT 1LV 27LVT 1LV 27LVT 1LV 27LVT 1LV 27LVT 1LV 27LVT 1LV 27LVT 1LV 27LVT 1LV",
  "27LVT 1LV 27LVT 1LV 27LVT 1LV 27LVT 1LV 27LVT 1LV 27LVT 1LV 27LVT 1LV 27LVT 1LV 27LVT",
  "1LV 27LVT 1LV 27LVT 1LV 27LVT 1LV 27LVT 1LV 27LVT 1LV 27LVT 1LV 27LVT 1LV 27LVT 1LV",
  "27LVT 1LV 27LVT 1LV 27LVT 1LV 27LVT 1LV 27LVT 1LV 27LVT 1LV 27LVT 1LV 27LVT 1LV 27LVT",
  "1LV 27LVT 1LV 27LVT 1LV 27LVT 1LV 27LVT 1LV 27LVT 1LV 27LVT 1LV 27LVT 1LV 27LVT 1LV",
  "27LVT 1LV 27LVT 1LV 27LVT 1LV 27LVT 1LV 27LVT 1LV 27LVT 1LV 27LVT 1LV 27LVT 1LV 27LVT",
  "1LV 27LVT 1LV 27LVT 1LV 27LVT 1LV 27LVT 1LV 27LVT 1LV 27LVT 1LV 27LVT 1LV 27LVT 1LV",
  "27LVT 1LV 27LVT 1LV 27LVT 1LV 27LVT 1LV 27LVT 1LV 27LVT 1LV 27LVT 1LV 27LVT 1LV 27LVT",
  "1LV 27LVT 1LV 27LVT 1LV 27LVT 1LV 27LVT 1LV 27LVT 1LV 27LVT 1LV 27LVT 1LV 27LVT 1LV",
  "27LVT 1LV 27LVT 1LV 27LVT 1LV 27LVT 1LV 27LVT 1LV 27LVT 1LV 27LVT 1LV 27LVT 1LV 27LVT",
  "1LV 27LVT 1LV 27LVT 1LV 27LVT 1LV 27LVT 1LV 27LVT 1LV 27LVT 1LV 27LVT 1LV 27LVT 1LV",
  "27LVT 1LV 27LVT 1LV 27LVT 1LV 27LVT 1LV 27LVT 1LV 27LVT 1LV 27LVT 1LV 27LVT 1LV 27LVT",
  "1LV 27LVT 1LV 27LVT 1LV 27LVT 1LV 27LVT 1LV 27LVT 1LV 27LVT 1LV 27LVT 1LV 27LVT 1LV",
  "27LVT 1LV 27LVT 1LV 27LVT 1LV 27LVT 1LV 27LVT 1LV 27LVT 1LV 27LVT 1LV 27LVT 1LV 27LVT",
  "1LV 27LVT 1LV 27LVT 1LV 27LVT 1LV 27LVT 1LV 27LVT 1LV 27LVT 1LV 27LVT 1LV 27LVT 1LV",
  "27LVT 1LV 27LVT 1LV 27LVT 1LV 27LVT 1LV 27LVT 1LV 27LVT 1LV 27LVT 1LV 27LVT 1LV 27LVT",
  "1LV 27LVT 1LV 27LVT 1LV 27LVT 1LV 27LVT 1LV 27LVT 1LV 27LVT 1LV 27LVT 1LV 27LVT 1LV",
  "27LVT 1LV 27LVT 1LV 27LVT 1LV 27LVT 1LV 27LVT 1LV 27LVT 1LV 27LVT 1LV 27LVT 1LV 27LVT",
  "1LV 27LVT 1LV 27LVT 1LV 27LVT 1LV 27LVT 1LV 27LVT 1LV 27LVT 1LV 27LVT 1LV 27LVT 1LV",
  "27LVT 1LV 27LVT 1LV 27LVT 1LV 27LVT 1LV 27LVT 1LV 27LVT 1LV 27LVT 1LV 27LVT 1LV 27LVT",
  "1LV 27LVT 1LV 27LVT 1LV 27LVT 1LV 27LVT 1LV 27LVT 1LV 27LVT 1LV 27LVT 1LV 27LVT 1LV",
  "27LVT 1LV 27LVT 1LV 27LVT 1LV 27LVT 1LV 27LVT 1LV 27LVT 1LV 27LVT 1LV 27LVT 1LV 27LVT",
  "1LV 27LVT 1LV 27LVT 1LV 27LVT 1LV 27LVT 1LV 27LVT 1LV 27LVT 1LV 27LVT 1LV 27LVT 1LV",
  "27LVT 1LV 27LVT 1LV 27LVT 1LV 27LVT 1LV 27LVT 1LV 27LVT 1LV 27LVT 1LV 27LVT 1LV 27LVT",
  "1LV 27LVT 1LV 27LVT 1LV 27LVT 1LV 27LVT 1LV 27LVT 1LV 27LVT 1LV 27LVT 1LV 27LVT 1LV",
  "27LVT 1LV 27LVT 1LV 27LVT 1LV 27LVT 1LV 27LVT 1LV 27LVT 1LV 27LVT 1LV 27LVT 1LV 27LVT",
  "1LV 27LVT 1LV 27LVT 1LV 27LVT 1LV 27LVT 1LV 27LVT 1LV 27LVT 1LV 27LVT 1LV 27LVT 1LV",
  "27LVT 1LV 27LVT 1LV 27LVT 1LV 27LVT 1LV 27LVT 1LV 27LVT 1LV 27LVT 1LV 27LVT 1LV 27LVT",
  "1LV 27LVT 1LV 27LVT 1LV 27LVT 1LV 27LVT 1LV 27LVT 1LV 27LVT 1LV 27LVT 1LV 27LVT 1LV",
  "27LVT 1LV 27LVT 1LV 27LVT 1LV 27LVT 1LV 27LVT 1LV 27LVT 1LV 27LVT 1LV 27LVT 1LV 27LVT",
  "1LV 27LVT 1LV 27LVT 1LV 27LVT 1LV 27LVT 1LV 27LVT 1LV 27LVT 1LV 27LVT 1LV 27LVT 1LV",
  "27LVT 1LV 27LVT 1LV 27LVT 1LV 27LVT 1LV 27LVT 1LV 27LVT 1LV 27LVT 1LV 27LVT 1LV 27LVT",
  "1LV 27LVT 1LV 27LVT 1LV 27LVT 1LV 27LVT 1LV 27LVT 1LV 27LVT 1LV 27LVT 1LV 27LVT 1LV",
  "27LVT 1LV 27LVT 1LV 27LVT 1LV 27LVT 1LV 27LVT 1LV 27LVT 1LV 27LVT 1LV 27LVT 1LV 27LVT",
  "1LV 27LVT 1LV 27LVT 1LV 27LVT 1LV 27LVT 1LV 27LVT 1LV 27LVT 1LV 27LVT 1LV 27LVT 1LV",
  "27LVT 1LV 27LVT 1LV 27LVT 1LV 27LVT 1LV 27LVT 1LV 27LVT 1LV 27LVT 1LV 27LVT 1LV 27LVT",
  "1LV 27LVT 1LV 27LVT 1LV 27LVT 1LV 27LVT 1LV 27LVT 1LV 27LVT 1LV 27LVT 1LV 27LVT 1LV",
  "27LVT 1LV 27LVT 1LV 27LVT 1LV 27LVT 1LV 27LVT 1LV 27LVT 1LV 27LVT 1LV 27LVT 1LV 27LVT",
  "1LV 27LVT 1LV 27LVT 1LV 27LVT 1LV 27LVT 1LV 27LVT 1LV 27LVT 1LV 27LVT 1LV 27LVT 1LV",
  "27LVT 1LV 27LVT 1LV 27LVT 1LV 27LVT 1LV 27LVT 1LV 27LVT 1LV 27LVT 1LV 27LVT 1LV 27LVT",
  "1LV 27LVT 1LV 27LVT 1LV 27LVT 1LV 27LVT 1LV 27LVT 1LV 27LVT 1LV 27LVT 1LV 27LVT 1LV",
  "27LVT 1LV 27LVT 1LV 27LVT 1LV 27LVT 1LV 27LVT 1LV 27LVT 1LV 27LVT 1LV 27LVT 1LV 27LVT",
  "1LV 27LVT 1LV 27LVT 1LV 27LVT 1LV 27LVT 1LV 27LVT 1LV 27LVT 1LV 27LVT 1LV 27LVT 1LV",
  "27LVT 1LV 27LVT 1LV 27LVT 1LV 27LVT 1LV 27LVT 1LV 27LVT 1LV 27LVT 1LV 27LVT 1LV 27LVT",
  "1LV 27LVT 1LV 27LVT 1LV 27LVT 1LV 27LVT 1LV 27LVT 1LV 27LVT 1LV 27LVT 1LV 27LVT 1LV",
  "27LVT 1LV 27LVT 1LV 27LVT 1LV 27LVT 1LV 27LVT 1LV 27LVT 12- 23V 4- 49T 8994- 1EX 737-",
  "16EX 16- 16EX 207- 1CN 158- 2EX 80- 12CN 513- 1EX 226- 1EX 149- 5EX 1670- 3EX 1- 2EX 5-",
  "4EX 40- 3EX 4- 1EX 165- 2EX 573- 4EX 65- 5EX 317- 2EX 79- 4EX 70- 11EX 49- 4EX 122- 1SM",
  "1EX 1SM 53- 15EX 41- 1EX 2- 2EX 10- 3EX 1SM 45- 3SM 4EX 2SM 2EX 2- 1PP 4- 1EX 10- 1PP",
  "50- 3EX 36- 5EX 1SM 8EX 16- 2SM 44- 1EX 12- 2EX 1SM 48- 3SM 9EX 1SM 1EX 1- 2PP 5- 4EX 1-",
  "1SM 1EX 92- 3SM 3EX 2SM 4EX 6- 1EX 2- 1EX 157- 1EX 3SM 8EX 21- 2EX 2SM 55- 2EX 1- 1EX",
  "1SM 1EX 4SM 2- 2SM 2- 2SM 1EX 9- 1EX 10- 2SM 2- 7EX 3- 5EX 67- 1EX 2SM 6EX 1- 1EX 2- 1EX",
  "1- 3EX 1SM 1- 2SM 3EX 1PP 1EX 14- 2EX 82- 3SM 8EX 2SM 3EX 1SM 1EX 23- 1EX 81- 1EX 2SM",
  "6EX 1SM 1EX 2SM 1EX 1SM 2EX 1SM 2EX 235- 1EX 2SM 4EX 2- 4SM 2EX 1SM 2EX 27- 2EX 82- 3SM",
  "8EX 2SM 1EX 1SM 2EX 106- 1EX 1SM 1EX 2SM 8EX 101- 1EX 1SM 1EX 2- 4EX 1SM 5EX 256- 3SM",
  "9EX 1SM 2EX 245- 1EX 5SM 1- 2SM 2- 4EX 1PP 1SM 1PP 1SM 1EX 141- 3SM 4EX 2- 2EX 4SM 1EX",
  "3- 1SM 28- 10EX 40- 6EX 1SM 1PP 4EX 8- 1EX 9- 6EX 2SM 3EX 40- 6PP 13EX 1SM 2EX 405- 1SM",
  "7EX 1- 6EX 1SM 1EX 82- 22EX 1- 1SM 7EX 1SM 2EX 1SM 2EX 122- 6EX 3- 1EX 1- 2EX 1- 7EX 1PP",
  "1EX 66- 5SM 1- 2EX 1- 2SM 1EX 1SM 1EX 347- 2EX 2SM 9- 2EX 1PP 1SM 48- 2SM 5EX 3- 2SM 3EX",
  "23- 1EX 5333- 16CN 1EX 6- 15EX 11464- 12EX 3SM 3EX 2496- 5EX 59- 7EX 556- 1V 3- 4V 484-",
  "1EX 1- 55SM 7- 4EX 81- 1EX 11- 2EX 19627- 2EX 1- 4CN 4700- 46EX 2- 23EX 542- 5EX 3- 6EX",
  "8CN 8EX 2- 7EX 30- 4EX 148- 3EX 1979- 55EX 4- 50EX 8- 1EX 14- 1EX 22- 5EX 1- 15EX 1360-",
  "7EX 1- 17EX 2- 7EX 1- 2EX 1- 5EX 100- 1EX 160- 7EX 375- 1EX 61- 4EX 508- 4EX 254- 2EX",
  "736- 7EX 109- 7EX 2203- 26RI 507- 5EX 789504- 32CN 96EX 128CN 240EX 3600CN 192512-"]

/-- The names of the classes for the division into grapheme clusters, in lower case and without
separators. -/
def graphemeBreakNames : List (List String × String) := [
  (["cn", "control"], "CN"), (["cr"], "CR"), (["ex", "extend"], "EX"), (["l"], "L"),
  (["lf"], "LF"), (["lv"], "LV"), (["lvt"], "LVT"), (["pp", "prepend"], "PP"),
  (["ri", "regionalindicator"], "RI"), (["sm", "spacingmark"], "SM"), (["t"], "T"), (["v"], "V"),
  (["zwj"], "ZWJ")]

/-- The code points of a class for the division into grapheme clusters. -/
def graphemeBreakNamed? (key : String) : Option CharSet :=
  (graphemeBreakNames.find? fun entry => entry.1.contains key).map fun entry =>
    labelled (runs graphemeBreakRuns) [entry.2]

/-! ## Division into words -/

/-- The classes for the division into words, in runs. -/
def wordBreakRuns : List String := [
  "10- 1LF 2NL 1CR 18- 1WSEGSPACE 1- 1DQ 4- 1SQ 4- 1MN 1- 1MB 1- 10NU 1ML 1MN 5- 26LE 4-",
  "1EX 1- 26LE 10- 1NL 36- 1LE 2- 1FO 7- 1LE 1- 1ML 2- 1LE 5- 23LE 1- 31LE 1- 480LE 6- 34LE",
  "112EXTEND 5LE 1- 2LE 2- 4LE 1MN 1LE 6- 1LE 1ML 3LE 1- 1LE 1- 20LE 1- 83LE 1- 139LE 1-",
  "7EXTEND 166LE 1- 38LE 2- 4LE 1- 1LE 1ML 41LE 1MN 1LE 6- 45EXTEND 1- 1EXTEND 1- 2EXTEND",
  "1- 2EXTEND 1- 1EXTEND 8- 27HL 4- 4HL 1LE 1ML 11- 6NU 6- 2MN 2- 11EXTEND 1- 1FO 3- 43LE",
  "21EXTEND 10NU 1- 1NU 1MN 1- 2LE 1EXTEND 99LE 1- 1LE 7EXTEND 1NU 1- 6EXTEND 2LE 2EXTEND",
  "1- 4EXTEND 2LE 10NU 3LE 2- 1LE 15- 2LE 1EXTEND 30LE 27EXTEND 2- 89LE 11EXTEND 1LE 14-",
  "10NU 33LE 9EXTEND 2LE 2- 1MN 1- 1LE 2- 1EXTEND 2- 22LE 4EXTEND 1LE 9EXTEND 1LE 3EXTEND",
  "1LE 5EXTEND 18- 25LE 3EXTEND 4- 11LE 5- 24LE 1- 6LE 1- 2NU 5- 9EXTEND 42LE 24EXTEND 1NU",
  "33EXTEND 54LE 3EXTEND 1LE 18EXTEND 1LE 7EXTEND 10LE 2EXTEND 2- 10NU 1- 16LE 3EXTEND 1-",
  "8LE 2- 2LE 2- 22LE 1- 7LE 1- 1LE 3- 4LE 2- 1EXTEND 1LE 7EXTEND 2- 2EXTEND 2- 3EXTEND 1LE",
  "8- 1EXTEND 4- 2LE 1- 3LE 2EXTEND 2- 10NU 2LE 10- 1LE 1- 1EXTEND 2- 3EXTEND 1- 6LE 4- 2LE",
  "2- 22LE 1- 7LE 1- 2LE 1- 2LE 1- 2LE 2- 1EXTEND 1- 5EXTEND 4- 2EXTEND 2- 3EXTEND 3-",
  "1EXTEND 7- 4LE 1- 1LE 7- 10NU 2EXTEND 3LE 1EXTEND 11- 3EXTEND 1- 9LE 1- 3LE 1- 22LE 1-",
  "7LE 1- 2LE 1- 5LE 2- 1EXTEND 1LE 8EXTEND 1- 3EXTEND 1- 3EXTEND 2- 1LE 15- 2LE 2EXTEND 2-",
  "10NU 9- 1LE 6EXTEND 1- 3EXTEND 1- 8LE 2- 2LE 2- 22LE 1- 7LE 1- 2LE 1- 5LE 2- 1EXTEND 1LE",
  "7EXTEND 2- 2EXTEND 2- 3EXTEND 7- 3EXTEND 4- 2LE 1- 3LE 2EXTEND 2- 10NU 1- 1LE 16-",
  "1EXTEND 1LE 1- 6LE 3- 3LE 1- 4LE 3- 2LE 1- 1LE 1- 2LE 3- 2LE 3- 3LE 3- 12LE 4- 5EXTEND",
  "3- 3EXTEND 1- 4EXTEND 2- 1LE 6- 1EXTEND 14- 10NU 16- 5EXTEND 8LE 1- 3LE 1- 23LE 1- 16LE",
  "2- 1EXTEND 1LE 7EXTEND 1- 3EXTEND 1- 4EXTEND 7- 2EXTEND 1- 3LE 2- 1LE 2- 2LE 2EXTEND 2-",
  "10NU 16- 1LE 3EXTEND 1- 8LE 1- 3LE 1- 23LE 1- 10LE 1- 5LE 2- 1EXTEND 1LE 7EXTEND 1-",
  "3EXTEND 1- 4EXTEND 7- 2EXTEND 6- 2LE 1- 2LE 2EXTEND 2- 10NU 1- 2LE 1EXTEND 12- 4EXTEND",
  "9LE 1- 3LE 1- 41LE 2EXTEND 1LE 7EXTEND 1- 3EXTEND 1- 4EXTEND 1LE 5- 3LE 1EXTEND 7- 3LE",
  "2EXTEND 2- 10NU 10- 6LE 1- 3EXTEND 1- 18LE 3- 24LE 1- 9LE 1- 1LE 2- 7LE 3- 1EXTEND 4-",
  "6EXTEND 1- 1EXTEND 1- 8EXTEND 6- 10NU 2- 2EXTEND 61- 1EXTEND 2- 7EXTEND 12- 8EXTEND 1-",
  "10NU 87- 1EXTEND 2- 9EXTEND 11- 7EXTEND 1- 10NU 38- 1LE 23- 2EXTEND 6- 10NU 11- 1EXTEND",
  "1- 1EXTEND 1- 1EXTEND 4- 2EXTEND 8LE 1- 36LE 4- 20EXTEND 1- 2EXTEND 5LE 11EXTEND 1-",
  "36EXTEND 9- 1EXTEND 100- 20EXTEND 1- 10NU 12- 4EXTEND 4- 3EXTEND 1- 3EXTEND 2- 7EXTEND",
  "3- 4EXTEND 13- 12EXTEND 1- 1EXTEND 10NU 4EXTEND 2- 38LE 1- 1LE 5- 1LE 2- 43LE 1- 333LE",
  "1- 4LE 2- 7LE 1- 1LE 1- 4LE 2- 41LE 1- 4LE 2- 33LE 1- 4LE 2- 7LE 1- 1LE 1- 4LE 2- 15LE",
  "1- 57LE 1- 4LE 2- 67LE 2- 3EXTEND 32- 16LE 16- 86LE 2- 6LE 3- 620LE 2- 17LE 1WSEGSPACE",
  "26LE 5- 75LE 3- 11LE 7- 18LE 4EXTEND 9- 19LE 3EXTEND 11- 18LE 2EXTEND 12- 13LE 1- 3LE 1-",
  "2EXTEND 64- 32EXTEND 9- 1EXTEND 2- 10NU 33- 3EXTEND 1FO 1EXTEND 10NU 6- 89LE 7- 5LE",
  "2EXTEND 34LE 1EXTEND 1LE 5- 70LE 10- 31LE 1- 12EXTEND 4- 12EXTEND 10- 10NU 128- 11NU 37-",
  "23LE 5EXTEND 57- 10EXTEND 1- 29EXTEND 2- 1EXTEND 10NU 6- 10NU 22- 31EXTEND 49- 5EXTEND",
  "47LE 17EXTEND 8LE 3- 10NU 17- 9EXTEND 12- 3EXTEND 30LE 13EXTEND 2LE 10NU 44LE 14EXTEND",
  "12- 36LE 20EXTEND 8- 10NU 3- 3LE 10NU 36LE 2- 11LE 5- 43LE 2- 3LE 16- 3EXTEND 1-",
  "21EXTEND 4LE 1EXTEND 6LE 1EXTEND 2LE 3EXTEND 1LE 5- 192LE 64EXTEND 278LE 2- 6LE 2- 38LE",
  "2- 6LE 2- 8LE 1- 1LE 1- 1LE 1- 1LE 1- 31LE 2- 53LE 1- 7LE 1- 1LE 3- 3LE 1- 7LE 3- 4LE 2-",
  "6LE 4- 13LE 5- 3LE 1- 7LE 3- 7WSEGSPACE 1- 3WSEGSPACE 1- 1EXTEND 1ZWJ 2FO 8- 2MB 10- 1MB",
  "2- 1ML 2NL 5FO 1EX 15- 2EX 3- 1MN 15- 1EX 10- 1WSEGSPACE 5FO 1- 10FO 1- 1LE 13- 1LE 16-",
  "13LE 51- 33EXTEND 17- 1LE 4- 1LE 2- 10LE 1- 1LE 3- 5LE 6- 1LE 1- 1LE 1- 1LE 1- 4LE 1-",
  "11LE 2- 4LE 5- 5LE 4- 1LE 17- 41LE 813- 52LE 1814- 229LE 6- 4LE 3EXTEND 2LE 12- 38LE 1-",
  "1LE 5- 1LE 2- 56LE 7- 1LE 15- 1EXTEND 23LE 9- 7LE 1- 7LE 1- 7LE 1- 7LE 1- 7LE 1- 7LE 1-",
  "7LE 1- 7LE 1- 32EXTEND 47- 1LE 464- 1WSEGSPACE 4- 1LE 36- 6EXTEND 1- 5KA 5- 2LE 92-",
  "2EXTEND 2KA 3- 91KA 1- 4KA 5- 43LE 1- 94LE 17- 32LE 48- 16KA 208- 47KA 1- 88KA 27816-",
  "1165LE 67- 46LE 2- 269LE 3- 16LE 10NU 2LE 20- 47LE 4EXTEND 1- 10EXTEND 1- 31LE 2EXTEND",
  "80LE 2EXTEND 22- 198LE 2- 2LE 1- 1LE 1- 8LE 21- 16LE 1EXTEND 3LE 1EXTEND 4LE 1EXTEND",
  "23LE 5EXTEND 4- 1EXTEND 19- 52LE 12- 2EXTEND 50LE 18EXTEND 10- 10NU 6- 18EXTEND 6LE 3-",
  "1LE 1- 2LE 1EXTEND 10NU 28LE 8EXTEND 2- 23LE 13EXTEND 12- 29LE 3- 4EXTEND 47LE 14EXTEND",
  "14- 1LE 10NU 11- 1EXTEND 10- 10NU 6- 41LE 14EXTEND 9- 3LE 1EXTEND 8LE 2EXTEND 2- 10NU",
  "33- 3EXTEND 50- 1EXTEND 1- 3EXTEND 2- 2EXTEND 5- 2EXTEND 1- 1EXTEND 30- 11LE 5EXTEND 2-",
  "3LE 2EXTEND 10- 6LE 2- 6LE 2- 6LE 9- 7LE 1- 7LE 1- 58LE 6- 115LE 8EXTEND 1- 2EXTEND 2-",
  "10NU 6- 11172LE 12- 23LE 4- 49LE 8964- 7LE 12- 5LE 5- 1HL 1EXTEND 10HL 1- 13HL 1- 5HL 1-",
  "1HL 1- 2HL 1- 2HL 1- 10HL 98LE 33- 363LE 18- 64LE 2- 54LE 40- 12LE 4- 16EXTEND 3- 1ML",
  "12- 16EXTEND 3- 2EX 24- 3EX 1MN 1- 1MB 1- 1MN 1ML 26- 5LE 1- 135LE 2- 1FO 7- 1MB 4- 1MN",
  "1- 1MB 1- 10NU 1ML 1MN 5- 26LE 4- 1EX 1- 26LE 11- 56KA 2EXTEND 31LE 3- 6LE 2- 6LE 2- 6LE",
  "2- 3LE 28- 3FO 4- 12LE 1- 26LE 1- 19LE 1- 2LE 1- 15LE 2- 14LE 34- 123LE 69- 53LE 136-",
  "1EXTEND 130- 29LE 3- 49LE 15- 1EXTEND 31- 32LE 13- 30LE 5- 38LE 5EXTEND 5- 30LE 2- 36LE",
  "4- 8LE 1- 5LE 42- 158LE 2- 10NU 6- 36LE 4- 36LE 4- 40LE 8- 52LE 12- 11LE 1- 15LE 1- 7LE",
  "1- 2LE 1- 11LE 1- 15LE 1- 7LE 1- 2LE 3- 52LE 12- 311LE 9- 22LE 10- 8LE 24- 6LE 1- 42LE",
  "1- 9LE 69- 6LE 2- 1LE 1- 44LE 1- 2LE 3- 1LE 2- 23LE 10- 23LE 9- 31LE 65- 19LE 1- 2LE 10-",
  "22LE 10- 26LE 70- 56LE 6- 2LE 64- 1LE 3EXTEND 1- 2EXTEND 5- 4EXTEND 4LE 1- 3LE 1- 29LE",
  "2- 3EXTEND 4- 1EXTEND 32- 29LE 3- 29LE 35- 8LE 1- 28LE 2EXTEND 25- 54LE 10- 22LE 10-",
  "19LE 13- 18LE 110- 73LE 55- 51LE 13- 51LE 13- 36LE 4EXTEND 8- 10NU 6- 10NU 28LE 3-",
  "5EXTEND 1- 23LE 250- 42LE 1- 2EXTEND 3- 2LE 16- 3LE 55- 4EXTEND 29LE 10- 1LE 8- 22LE",
  "11EXTEND 31- 18LE 4EXTEND 42- 21LE 27- 23LE 9- 3EXTEND 53LE 15EXTEND 31- 10NU 1EXTEND",
  "2LE 2EXTEND 1LE 9- 4EXTEND 45LE 11EXTEND 2- 1NU 4- 1EXTEND 10- 1NU 2- 25LE 7- 10NU 6-",
  "3EXTEND 36LE 14EXTEND 1- 10NU 4- 1LE 2EXTEND 1LE 8- 35LE 1EXTEND 2- 1LE 9- 3EXTEND 48LE",
  "14EXTEND 4LE 4- 4EXTEND 1- 2EXTEND 10NU 1LE 1- 1LE 35- 18LE 1- 25LE 12EXTEND 6- 1EXTEND",
  "2LE 1EXTEND 62- 7LE 1- 1LE 1- 4LE 1- 15LE 1- 10LE 7- 47LE 12EXTEND 5- 10NU 6- 4EXTEND 1-",
  "8LE 2- 2LE 2- 22LE 1- 7LE 1- 2LE 1- 5LE 1- 2EXTEND 1LE 7EXTEND 2- 2EXTEND 2- 3EXTEND 2-",
  "1LE 6- 1EXTEND 5- 5LE 2EXTEND 2- 7EXTEND 3- 5EXTEND 11- 10LE 1- 1LE 2- 1LE 1- 38LE 1-",
  "1LE 9EXTEND 1- 1EXTEND 2- 1EXTEND 1- 4EXTEND 1- 5EXTEND 1LE 1EXTEND 1LE 13- 2EXTEND 29-",
  "53LE 18EXTEND 4LE 5- 10NU 4- 1EXTEND 3LE 30- 48LE 20EXTEND 2LE 1- 1LE 8- 10NU 166- 47LE",
  "7EXTEND 2- 9EXTEND 23- 4LE 2EXTEND 34- 48LE 17EXTEND 3- 1LE 11- 10NU 38- 43LE 13EXTEND",
  "1LE 7- 10NU 6- 20NU 57- 15EXTEND 4- 10NU 198- 44LE 15EXTEND 101- 64LE 10NU 21- 8LE 2-",
  "1LE 2- 8LE 1- 2LE 1- 24LE 6EXTEND 1- 2EXTEND 2- 4EXTEND 1LE 1EXTEND 1LE 2EXTEND 12- 10NU",
  "70- 8LE 2- 39LE 7EXTEND 2- 7EXTEND 1LE 1- 1LE 1EXTEND 27- 1LE 10EXTEND 40LE 7EXTEND 1LE",
  "4EXTEND 8- 1EXTEND 8- 1LE 11EXTEND 46LE 16EXTEND 3- 1LE 18- 73LE 199- 33LE 15- 10NU 6-",
  "9LE 1- 37LE 8EXTEND 1- 8EXTEND 1LE 15- 10NU 24- 30LE 2- 22EXTEND 1- 14EXTEND 73- 7LE 1-",
  "2LE 1- 38LE 6EXTEND 3- 1EXTEND 1- 2EXTEND 1- 7EXTEND 1LE 1EXTEND 8- 10NU 6- 6LE 1- 2LE",
  "1- 32LE 5EXTEND 1- 2EXTEND 1- 5EXTEND 1LE 7- 10NU 310- 19LE 4EXTEND 9- 2EXTEND 1LE",
  "1EXTEND 13LE 1- 34LE 7EXTEND 3- 5EXTEND 13- 10NU 1EXTEND 85- 1LE 79- 922LE 102- 111LE",
  "17- 196LE 2636- 97LE 15- 1072LE 16FO 1EXTEND 6LE 15EXTEND 10- 3995LE 5- 583LE 6841- 30LE",
  "18EXTEND 10NU 1734- 569LE 7- 31LE 1- 10NU 6- 79LE 1- 10NU 6- 30LE 2- 5EXTEND 11- 48LE",
  "7EXTEND 9- 4LE 12- 10NU 9- 21LE 5- 19LE 432- 45LE 3- 10NU 198- 64LE 128- 75LE 4- 1EXTEND",
  "1LE 55EXTEND 7- 4EXTEND 13LE 64- 2LE 1- 1LE 1EXTEND 11- 2EXTEND 16382- 4KA 1- 7KA 1- 2KA",
  "1- 1KA 287- 3KA 50- 1KA 14- 4KA 2712- 107LE 5- 13LE 3- 9LE 7- 10LE 3- 2EXTEND 1- 4FO",
  "4172- 10NU 518- 46EXTEND 2- 23EXTEND 542- 5EXTEND 3- 6EXTEND 8FO 8EXTEND 2- 7EXTEND 30-",
  "4EXTEND 148- 3EXTEND 443- 85LE 1- 71LE 1- 2LE 2- 1LE 2- 2LE 2- 4LE 1- 12LE 1- 1LE 1- 7LE",
  "1- 65LE 1- 4LE 2- 8LE 1- 7LE 1- 28LE 1- 4LE 1- 5LE 1- 1LE 3- 7LE 1- 340LE 2- 25LE 1-",
  "25LE 1- 31LE 1- 25LE 1- 31LE 1- 25LE 1- 31LE 1- 25LE 1- 31LE 1- 25LE 1- 8LE 2- 50NU 512-",
  "55EXTEND 4- 50EXTEND 8- 1EXTEND 14- 1EXTEND 22- 5EXTEND 1- 15EXTEND 1104- 31LE 6- 6LE",
  "213- 7EXTEND 1- 17EXTEND 2- 7EXTEND 1- 2EXTEND 1- 5EXTEND 5- 62LE 33- 1EXTEND 112- 45LE",
  "3- 7EXTEND 7LE 2- 10NU 4- 1LE 321- 30LE 1EXTEND 17- 44LE 4EXTEND 10NU 470- 28LE 4EXTEND",
  "10NU 214- 30LE 2EXTEND 1LE 10NU 485- 7LE 1- 4LE 1- 2LE 1- 15LE 1- 197LE 11- 7EXTEND 41-",
  "68LE 7EXTEND 1LE 4- 10NU 1190- 4LE 1- 27LE 1- 2LE 1- 1LE 2- 1LE 1- 10LE 1- 4LE 1- 1LE 1-",
  "1LE 6- 1LE 4- 1LE 1- 1LE 1- 1LE 1- 3LE 1- 2LE 1- 1LE 2- 1LE 1- 1LE 1- 1LE 1- 1LE 1- 1LE",
  "1- 2LE 1- 1LE 2- 4LE 1- 7LE 1- 4LE 1- 4LE 1- 1LE 1- 10LE 1- 17LE 5- 3LE 1- 5LE 1- 17LE",
  "628- 26LE 6- 26LE 6- 26LE 92- 26RI 507- 5EXTEND 2032- 10NU 787463- 1FO 30- 96EXTEND 128-",
  "240EXTEND 196112-"]

/-- The names of the classes for the division into words, in lower case and without separators. -/
def wordBreakNames : List (List String × String) := [
  (["cr"], "CR"), (["dq", "doublequote"], "DQ"), (["ex", "extendnumlet"], "EX"),
  (["extend"], "EXTEND"), (["fo", "format"], "FO"), (["hl", "hebrewletter"], "HL"),
  (["ka", "katakana"], "KA"), (["le", "aletter"], "LE"), (["lf"], "LF"),
  (["mb", "midnumlet"], "MB"), (["ml", "midletter"], "ML"), (["mn", "midnum"], "MN"),
  (["nl", "newline"], "NL"), (["nu", "numeric"], "NU"), (["ri", "regionalindicator"], "RI"),
  (["sq", "singlequote"], "SQ"), (["wsegspace"], "WSEGSPACE"), (["zwj"], "ZWJ")]

/-- The code points of a class for the division into words. -/
def wordBreakNamed? (key : String) : Option CharSet :=
  (wordBreakNames.find? fun entry => entry.1.contains key).map fun entry =>
    labelled (runs wordBreakRuns) [entry.2]

/-! ## Division into sentences -/

/-- The classes for the division into sentences, in runs. -/
def sentenceBreakRuns : List String := [
  "9- 1SP 1LF 2SP 1CR 18- 1SP 1ST 1CL 4- 3CL 2- 2SC 1AT 1- 10NU 2SC 3- 1ST 1- 26UP 1CL 1-",
  "1CL 3- 26LO 1CL 1- 1CL 7- 1SE 26- 1SP 9- 1LO 1CL 1- 1FO 7- 1LO 4- 1LO 1CL 4- 23UP 1- 7UP",
  "24LO 1- 8LO 1UP 1LO 1UP 1LO 1UP 1LO 1UP 1LO 1UP 1LO 1UP 1LO 1UP 1LO 1UP 1LO 1UP 1LO 1UP",
  "1LO 1UP 1LO 1UP 1LO 1UP 1LO 1UP 1LO 1UP 1LO 1UP 1LO 1UP 1LO 1UP 1LO 1UP 1LO 1UP 1LO 1UP",
  "1LO 1UP 1LO 1UP 1LO 1UP 1LO 1UP 1LO 1UP 1LO 1UP 1LO 1UP 2LO 1UP 1LO 1UP 1LO 1UP 1LO 1UP",
  "1LO 1UP 1LO 1UP 1LO 1UP 1LO 1UP 2LO 1UP 1LO 1UP 1LO 1UP 1LO 1UP 1LO 1UP 1LO 1UP 1LO 1UP",
  "1LO 1UP 1LO 1UP 1LO 1UP 1LO 1UP 1LO 1UP 1LO 1UP 1LO 1UP 1LO 1UP 1LO 1UP 1LO 1UP 1LO 1UP",
  "1LO 1UP 1LO 1UP 1LO 1UP 1LO 1UP 1LO 1UP 1LO 2UP 1LO 1UP 1LO 1UP 3LO 2UP 1LO 1UP 1LO 2UP",
  "1LO 3UP 2LO 4UP 1LO 2UP 1LO 3UP 3LO 2UP 1LO 2UP 1LO 1UP 1LO 1UP 1LO 2UP 1LO 1UP 2LO 1UP",
  "1LO 2UP 1LO 3UP 1LO 1UP 1LO 2UP 2LO 1LE 1UP 3LO 4LE 2UP 1LO 2UP 1LO 2UP 1LO 1UP 1LO 1UP",
  "1LO 1UP 1LO 1UP 1LO 1UP 1LO 1UP 1LO 1UP 1LO 1UP 2LO 1UP 1LO 1UP 1LO 1UP 1LO 1UP 1LO 1UP",
  "1LO 1UP 1LO 1UP 1LO 1UP 1LO 1UP 2LO 2UP 1LO 1UP 1LO 3UP 1LO 1UP 1LO 1UP 1LO 1UP 1LO 1UP",
  "1LO 1UP 1LO 1UP 1LO 1UP 1LO 1UP 1LO 1UP 1LO 1UP 1LO 1UP 1LO 1UP 1LO 1UP 1LO 1UP 1LO 1UP",
  "1LO 1UP 1LO 1UP 1LO 1UP 1LO 1UP 1LO 1UP 1LO 1UP 1LO 1UP 1LO 1UP 1LO 1UP 1LO 1UP 1LO 1UP",
  "1LO 1UP 1LO 1UP 1LO 1UP 7LO 2UP 1LO 2UP 2LO 1UP 1LO 4UP 1LO 1UP 1LO 1UP 1LO 1UP 1LO 1UP",
  "69LO 1LE 36LO 7LE 2LO 4- 12LE 14- 5LO 7- 1LE 1- 1LE 17- 112EX 1UP 1LO 1UP 1LO 1LE 1- 1UP",
  "1LO 2- 4LO 1SC 1UP 6- 1UP 1- 3UP 1- 1UP 1- 2UP 1LO 17UP 1- 9UP 35LO 1UP 2LO 3UP 3LO 1UP",
  "1LO 1UP 1LO 1UP 1LO 1UP 1LO 1UP 1LO 1UP 1LO 1UP 1LO 1UP 1LO 1UP 1LO 1UP 1LO 1UP 1LO 1UP",
  "5LO 1UP 1LO 1- 1UP 1LO 2UP 2LO 51UP 48LO 1UP 1LO 1UP 1LO 1UP 1LO 1UP 1LO 1UP 1LO 1UP 1LO",
  "1UP 1LO 1UP 1LO 1UP 1LO 1UP 1LO 1UP 1LO 1UP 1LO 1UP 1LO 1UP 1LO 1UP 1LO 1UP 1LO 1UP 1LO",
  "1- 7EX 1UP 1LO 1UP 1LO 1UP 1LO 1UP 1LO 1UP 1LO 1UP 1LO 1UP 1LO 1UP 1LO 1UP 1LO 1UP 1LO",
  "1UP 1LO 1UP 1LO 1UP 1LO 1UP 1LO 1UP 1LO 1UP 1LO 1UP 1LO 1UP 1LO 1UP 1LO 1UP 1LO 1UP 1LO",
  "1UP 1LO 1UP 1LO 1UP 1LO 1UP 1LO 1UP 1LO 1UP 1LO 2UP 1LO 1UP 1LO 1UP 1LO 1UP 1LO 1UP 1LO",
  "1UP 1LO 1UP 2LO 1UP 1LO 1UP 1LO 1UP 1LO 1UP 1LO 1UP 1LO 1UP 1LO 1UP 1LO 1UP 1LO 1UP 1LO",
  "1UP 1LO 1UP 1LO 1UP 1LO 1UP 1LO 1UP 1LO 1UP 1LO 1UP 1LO 1UP 1LO 1UP 1LO 1UP 1LO 1UP 1LO",
  "1UP 1LO 1UP 1LO 1UP 1LO 1UP 1LO 1UP 1LO 1UP 1LO 1UP 1LO 1UP 1LO 1UP 1LO 1UP 1LO 1UP 1LO",
  "1UP 1LO 1UP 1LO 1UP 1LO 1UP 1LO 1UP 1LO 1UP 1LO 1UP 1LO 1UP 1LO 1UP 1LO 1UP 1LO 1UP 1LO",
  "1UP 1LO 1UP 1LO 1UP 1LO 1UP 1LO 1UP 1LO 1UP 1LO 1- 38UP 2- 1LE 3- 1SC 2- 41LO 1ST 7-",
  "45EX 1- 1EX 1- 2EX 1- 2EX 1- 1EX 8- 27LE 4- 5LE 12- 6NU 6- 2SC 2- 11EX 1- 1FO 3ST 43LE",
  "21EX 10NU 1- 2NU 1- 2LE 1EX 99LE 1ST 1LE 7EX 1NU 1- 6EX 2LE 2EX 1- 4EX 2LE 10NU 3LE 2-",
  "1LE 3ST 12- 1FO 1LE 1EX 30LE 27EX 2- 89LE 11EX 1LE 14- 10NU 33LE 9EX 2LE 2- 1SC 1ST 1LE",
  "2- 1EX 2- 22LE 4EX 1LE 9EX 1LE 3EX 1LE 5EX 9- 1ST 1- 1ST 3- 2ST 1- 25LE 3EX 4- 11LE 5-",
  "24LE 1- 6LE 1- 2NU 5- 9EX 42LE 24EX 1NU 33EX 54LE 3EX 1LE 18EX 1LE 7EX 10LE 2EX 2ST 10NU",
  "1- 16LE 3EX 1- 8LE 2- 2LE 2- 22LE 1- 7LE 1- 1LE 3- 4LE 2- 1EX 1LE 7EX 2- 2EX 2- 3EX 1LE",
  "8- 1EX 4- 2LE 1- 3LE 2EX 2- 10NU 2LE 10- 1LE 1- 1EX 2- 3EX 1- 6LE 4- 2LE 2- 22LE 1- 7LE",
  "1- 2LE 1- 2LE 1- 2LE 2- 1EX 1- 5EX 4- 2EX 2- 3EX 3- 1EX 7- 4LE 1- 1LE 7- 10NU 2EX 3LE",
  "1EX 11- 3EX 1- 9LE 1- 3LE 1- 22LE 1- 7LE 1- 2LE 1- 5LE 2- 1EX 1LE 8EX 1- 3EX 1- 3EX 2-",
  "1LE 15- 2LE 2EX 2- 10NU 9- 1LE 6EX 1- 3EX 1- 8LE 2- 2LE 2- 22LE 1- 7LE 1- 2LE 1- 5LE 2-",
  "1EX 1LE 7EX 2- 2EX 2- 3EX 7- 3EX 4- 2LE 1- 3LE 2EX 2- 10NU 1- 1LE 16- 1EX 1LE 1- 6LE 3-",
  "3LE 1- 4LE 3- 2LE 1- 1LE 1- 2LE 3- 2LE 3- 3LE 3- 12LE 4- 5EX 3- 3EX 1- 4EX 2- 1LE 6- 1EX",
  "14- 10NU 16- 5EX 8LE 1- 3LE 1- 23LE 1- 16LE 2- 1EX 1LE 7EX 1- 3EX 1- 4EX 7- 2EX 1- 3LE",
  "2- 1LE 2- 2LE 2EX 2- 10NU 16- 1LE 3EX 1- 8LE 1- 3LE 1- 23LE 1- 10LE 1- 5LE 2- 1EX 1LE",
  "7EX 1- 3EX 1- 4EX 7- 2EX 6- 2LE 1- 2LE 2EX 2- 10NU 1- 2LE 1EX 12- 4EX 9LE 1- 3LE 1- 41LE",
  "2EX 1LE 7EX 1- 3EX 1- 4EX 1LE 5- 3LE 1EX 7- 3LE 2EX 2- 10NU 10- 6LE 1- 3EX 1- 18LE 3-",
  "24LE 1- 9LE 1- 1LE 2- 7LE 3- 1EX 4- 6EX 1- 1EX 1- 8EX 6- 10NU 2- 2EX 13- 48LE 1EX 2LE",
  "7EX 5- 7LE 8EX 1- 10NU 39- 2LE 1- 1LE 1- 5LE 1- 24LE 1- 1LE 1- 10LE 1EX 2LE 9EX 1LE 2-",
  "5LE 1- 1LE 1- 7EX 1- 10NU 2- 4LE 32- 1LE 23- 2EX 6- 10NU 11- 1EX 1- 1EX 1- 1EX 4CL 2EX",
  "8LE 1- 36LE 4- 20EX 1- 2EX 5LE 11EX 1- 36EX 9- 1EX 57- 43LE 20EX 1LE 10NU 2ST 4- 6LE 4EX",
  "4LE 3EX 1LE 3EX 2LE 7EX 3LE 4EX 13LE 12EX 1LE 1EX 10NU 4EX 2- 38UP 1- 1UP 5- 1UP 2- 43LE",
  "1- 1LO 332LE 1- 4LE 2- 7LE 1- 1LE 1- 4LE 2- 41LE 1- 4LE 2- 33LE 1- 4LE 2- 7LE 1- 1LE 1-",
  "4LE 2- 15LE 1- 57LE 1- 4LE 2- 67LE 2- 3EX 2- 1ST 4- 2ST 23- 16LE 16- 86UP 2- 6LO 3-",
  "620LE 1- 1ST 17LE 1SP 26LE 2CL 3- 75LE 3- 11LE 7- 18LE 4EX 9- 19LE 3EX 2ST 9- 18LE 2EX",
  "12- 13LE 1- 3LE 1- 2EX 12- 52LE 32EX 2ST 1- 1LE 4- 1LE 1EX 2- 10NU 24- 1SC 1ST 4- 1SC",
  "1ST 1- 3EX 1FO 1EX 10NU 6- 89LE 7- 5LE 2EX 34LE 1EX 1LE 5- 70LE 10- 31LE 1- 12EX 4- 12EX",
  "8- 2ST 10NU 30LE 2- 5LE 11- 44LE 4- 26LE 6- 11NU 37- 23LE 5EX 4- 53LE 10EX 1- 29EX 2-",
  "1EX 10NU 6- 10NU 13- 1LE 4ST 4- 31EX 49- 5EX 47LE 17EX 8LE 1- 2ST 10NU 2ST 2- 2ST 11-",
  "9EX 9- 3ST 3EX 30LE 13EX 2LE 10NU 44LE 14EX 12- 36LE 20EX 3- 2ST 3- 10NU 3- 3LE 10NU",
  "36LE 2ST 9LO 1UP 1LO 5- 43LE 2- 3LE 16- 3EX 1- 21EX 4LE 1EX 6LE 1EX 2LE 3EX 1LE 5- 192LO",
  "64EX 1UP 1LO 1UP 1LO 1UP 1LO 1UP 1LO 1UP 1LO 1UP 1LO 1UP 1LO 1UP 1LO 1UP 1LO 1UP 1LO 1UP",
  "1LO 1UP 1LO 1UP 1LO 1UP 1LO 1UP 1LO 1UP 1LO 1UP 1LO 1UP 1LO 1UP 1LO 1UP 1LO 1UP 1LO 1UP",
  "1LO 1UP 1LO 1UP 1LO 1UP 1LO 1UP 1LO 1UP 1LO 1UP 1LO 1UP 1LO 1UP 1LO 1UP 1LO 1UP 1LO 1UP",
  "1LO 1UP 1LO 1UP 1LO 1UP 1LO 1UP 1LO 1UP 1LO 1UP 1LO 1UP 1LO 1UP 1LO 1UP 1LO 1UP 1LO 1UP",
  "1LO 1UP 1LO 1UP 1LO 1UP 1LO 1UP 1LO 1UP 1LO 1UP 1LO 1UP 1LO 1UP 1LO 1UP 1LO 1UP 1LO 1UP",
  "1LO 1UP 1LO 1UP 1LO 1UP 1LO 1UP 1LO 1UP 1LO 1UP 1LO 1UP 1LO 1UP 1LO 1UP 1LO 1UP 1LO 1UP",
  "1LO 1UP 1LO 1UP 1LO 1UP 1LO 1UP 1LO 1UP 1LO 1UP 1LO 1UP 1LO 1UP 1LO 1UP 9LO 1UP 1LO 1UP",
  "1LO 1UP 1LO 1UP 1LO 1UP 1LO 1UP 1LO 1UP 1LO 1UP 1LO 1UP 1LO 1UP 1LO 1UP 1LO 1UP 1LO 1UP",
  "1LO 1UP 1LO 1UP 1LO 1UP 1LO 1UP 1LO 1UP 1LO 1UP 1LO 1UP 1LO 1UP 1LO 1UP 1LO 1UP 1LO 1UP",
  "1LO 1UP 1LO 1UP 1LO 1UP 1LO 1UP 1LO 1UP 1LO 1UP 1LO 1UP 1LO 1UP 1LO 1UP 1LO 1UP 1LO 1UP",
  "1LO 1UP 1LO 1UP 1LO 1UP 1LO 1UP 1LO 1UP 1LO 1UP 1LO 1UP 1LO 1UP 1LO 1UP 1LO 1UP 1LO 1UP",
  "1LO 1UP 1LO 1UP 1LO 1UP 9LO 8UP 6LO 2- 6UP 2- 8LO 8UP 8LO 8UP 6LO 2- 6UP 2- 8LO 1- 1UP",
  "1- 1UP 1- 1UP 1- 1UP 8LO 8UP 14LO 2- 8LO 8UP 8LO 8UP 8LO 8UP 5LO 1- 2LO 5UP 1- 1LO 3-",
  "3LO 1- 2LO 5UP 3- 4LO 2- 2LO 4UP 4- 8LO 5UP 5- 3LO 1- 2LO 5UP 3- 11SP 1FO 2EX 2FO 3- 2SC",
  "3- 8CL 4- 1AT 3- 2SE 5FO 1SP 9- 2CL 1- 2ST 7- 2CL 3ST 21- 1SP 5FO 1- 10FO 1- 1LO 11- 2CL",
  "1LO 13- 2CL 1- 13LO 51- 33EX 17- 1UP 4- 1UP 2- 1LO 3UP 2LO 3UP 1LO 1- 1UP 3- 5UP 6- 1UP",
  "1- 1UP 1- 1UP 1- 4UP 1- 1LO 4UP 1LO 4LE 1LO 2- 2LO 2UP 5- 1UP 4LO 4- 1LO 17- 16UP 16LO",
  "3LE 1UP 1LO 4LE 383- 4CL 29- 2CL 395- 26UP 26LO 625- 6CL 7- 14CL 79- 2CL 31- 10CL 403-",
  "22CL 63- 4CL 32- 2CL 514- 48UP 48LO 1UP 1LO 3UP 2LO 1UP 1LO 1UP 1LO 1UP 1LO 4UP 1LO 1UP",
  "2LO 1UP 8LO 3UP 1LO 1UP 1LO 1UP 1LO 1UP 1LO 1UP 1LO 1UP 1LO 1UP 1LO 1UP 1LO 1UP 1LO 1UP",
  "1LO 1UP 1LO 1UP 1LO 1UP 1LO 1UP 1LO 1UP 1LO 1UP 1LO 1UP 1LO 1UP 1LO 1UP 1LO 1UP 1LO 1UP",
  "1LO 1UP 1LO 1UP 1LO 1UP 1LO 1UP 1LO 1UP 1LO 1UP 1LO 1UP 1LO 1UP 1LO 1UP 1LO 1UP 1LO 1UP",
  "1LO 1UP 1LO 1UP 1LO 1UP 1LO 1UP 1LO 1UP 1LO 1UP 1LO 1UP 1LO 1UP 1LO 1UP 1LO 1UP 1LO 1UP",
  "1LO 1UP 1LO 1UP 1LO 1UP 1LO 1UP 1LO 1UP 1LO 1UP 1LO 1UP 2LO 6- 1UP 1LO 1UP 1LO 3EX 1UP",
  "1LO 5- 3ST 4- 38LO 1- 1LO 5- 1LO 2- 56LE 7- 1LE 15- 1EX 23LE 9- 7LE 1- 7LE 1- 7LE 1- 7LE",
  "1- 7LE 1- 7LE 1- 7LE 1- 7LE 1- 32EX 14CL 14- 2CL 2- 10CL 4- 1ST 1LE 12- 1ST 5- 1CL 16-",
  "2ST 8CL 419- 1SP 1SC 1ST 2- 3LE 10CL 2- 8CL 1- 3CL 1- 9LE 6EX 1- 5LE 2- 5LE 4- 86LE 2-",
  "2EX 2- 3LE 1- 90LE 1- 4LE 5- 43LE 1- 94LE 17- 32LE 48- 16LE 512- 6592LE 64- 22157LE 67-",
  "46LE 1- 1ST 269LE 1- 2ST 16LE 10NU 2LE 20- 1UP 1LO 1UP 1LO 1UP 1LO 1UP 1LO 1UP 1LO 1UP",
  "1LO 1UP 1LO 1UP 1LO 1UP 1LO 1UP 1LO 1UP 1LO 1UP 1LO 1UP 1LO 1UP 1LO 1UP 1LO 1UP 1LO 1UP",
  "1LO 1UP 1LO 1UP 1LO 1UP 1LO 1UP 1LO 1UP 1LO 1UP 1LO 1LE 4EX 1- 10EX 1- 1LE 1UP 1LO 1UP",
  "1LO 1UP 1LO 1UP 1LO 1UP 1LO 1UP 1LO 1UP 1LO 1UP 1LO 1UP 1LO 1UP 1LO 1UP 1LO 1UP 1LO 1UP",
  "1LO 1UP 3LO 2EX 80LE 2EX 1- 1ST 3- 1ST 31- 9LE 2- 1UP 1LO 1UP 1LO 1UP 1LO 1UP 1LO 1UP",
  "1LO 1UP 1LO 1UP 3LO 1UP 1LO 1UP 1LO 1UP 1LO 1UP 1LO 1UP 1LO 1UP 1LO 1UP 1LO 1UP 1LO 1UP",
  "1LO 1UP 1LO 1UP 1LO 1UP 1LO 1UP 1LO 1UP 1LO 1UP 1LO 1UP 1LO 1UP 1LO 1UP 1LO 1UP 1LO 1UP",
  "1LO 1UP 1LO 1UP 1LO 1UP 1LO 1UP 1LO 1UP 1LO 1UP 1LO 1UP 1LO 1UP 1LO 1UP 1LO 1UP 1LO 1UP",
  "10LO 1UP 1LO 1UP 1LO 2UP 1LO 1UP 1LO 1UP 1LO 1UP 1LO 1UP 1LO 1LE 2- 1UP 1LO 1UP 1LO 1LE",
  "1UP 1LO 1UP 3LO 1UP 1LO 1UP 1LO 1UP 1LO 1UP 1LO 1UP 1LO 1UP 1LO 1UP 1LO 1UP 1LO 1UP 1LO",
  "1UP 1LO 5UP 1LO 5UP 1LO 1UP 1LO 1UP 1LO 1UP 1LO 1UP 1LO 1UP 1LO 1UP 1LO 1UP 1LO 4UP 1LO",
  "1UP 1LO 2UP 1LO 2- 1UP 1LO 1- 1LO 1- 1LO 1UP 1LO 1UP 1LO 1UP 1LO 1UP 21- 3LO 1UP 1LO 1LE",
  "3LO 7LE 1EX 3LE 1EX 4LE 1EX 23LE 5EX 4- 1EX 19- 52LE 2- 2ST 8- 2EX 50LE 18EX 8- 2ST 10NU",
  "6- 18EX 6LE 3- 1LE 1- 2LE 1EX 10NU 28LE 8EX 1- 1ST 23LE 13EX 12- 29LE 3- 4EX 47LE 14EX",
  "7- 2ST 5- 1LE 10NU 6- 5LE 1EX 10LE 10NU 5LE 1- 41LE 14EX 9- 3LE 1EX 8LE 2EX 2- 10NU 3-",
  "3ST 23LE 3- 1LE 3EX 50LE 1EX 1LE 3EX 2LE 2EX 5LE 2EX 1LE 1EX 1LE 24- 3LE 2- 11LE 5EX 2ST",
  "3LE 2EX 10- 6LE 2- 6LE 2- 6LE 9- 7LE 1- 7LE 1- 43LO 1- 14LO 6- 80LO 35LE 8EX 1ST 2EX 2-",
  "10NU 6- 11172LE 12- 23LE 4- 49LE 8452- 366LE 2- 106LE 38- 7LO 12- 5LO 5- 1LE 1EX 10LE 1-",
  "13LE 1- 5LE 1- 1LE 1- 2LE 1- 2LE 1- 108LE 33- 363LE 2CL 16- 64LE 2- 54LE 40- 12LE 4-",
  "16EX 2SC 1ST 2SC 2ST 2CL 7- 16EX 1- 2SC 2- 16CL 2- 2CL 7- 2SC 1AT 1- 2SC 2ST 1SC 6CL 4-",
  "1SC 12- 5LE 1- 135LE 2- 1FO 1- 1ST 6- 2CL 2- 2SC 1AT 1- 10NU 2SC 3- 1ST 1- 26UP 1CL 1-",
  "1CL 3- 26LO 1CL 1- 1CL 1- 2CL 1ST 2CL 1SC 1- 56LE 2EX 31LE 3- 6LE 2- 6LE 2- 6LE 2- 3LE",
  "28- 3FO 4- 12LE 1- 26LE 1- 19LE 1- 2LE 1- 15LE 2- 14LE 34- 123LE 69- 53LE 136- 1EX 130-",
  "29LE 3- 49LE 15- 1EX 31- 32LE 13- 30LE 5- 38LE 5EX 5- 30LE 2- 36LE 4- 8LE 1- 5LE 42-",
  "40UP 40LO 78LE 2- 10NU 6- 36UP 4- 36LO 4- 40LE 8- 52LE 12- 11UP 1- 15UP 1- 7UP 1- 2UP 1-",
  "11LO 1- 15LO 1- 7LO 1- 2LO 3- 52LE 12- 311LE 9- 22LE 10- 8LE 24- 1LO 2LE 3LO 1- 42LO 1-",
  "9LO 69- 6LE 2- 1LE 1- 44LE 1- 2LE 3- 1LE 2- 23LE 10- 23LE 9- 31LE 65- 19LE 1- 2LE 10-",
  "22LE 10- 26LE 70- 56LE 6- 2LE 64- 1LE 3EX 1- 2EX 5- 4EX 4LE 1- 3LE 1- 29LE 2- 3EX 4- 1EX",
  "22- 2ST 8- 29LE 3- 29LE 35- 8LE 1- 28LE 2EX 25- 54LE 10- 22LE 10- 19LE 13- 18LE 110-",
  "73LE 55- 51UP 13- 51LO 13- 36LE 4EX 8- 10NU 6- 10NU 6LE 22UP 3- 5EX 1- 1LE 22LO 250-",
  "42LE 1- 2EX 3- 2LE 16- 3LE 55- 4EX 29LE 10- 1LE 8- 22LE 11EX 4- 5ST 22- 18LE 4EX 4ST 38-",
  "21LE 27- 23LE 9- 3EX 53LE 15EX 2ST 29- 10NU 1EX 2LE 2EX 1LE 9- 4EX 45LE 11EX 2- 1NU 4ST",
  "1EX 10- 1NU 2- 25LE 7- 10NU 6- 3EX 36LE 14EX 1- 10NU 1- 3ST 1LE 2EX 1LE 8- 35LE 1EX 2-",
  "1LE 9- 3EX 48LE 14EX 4LE 2ST 2- 4EX 1ST 2EX 10NU 1LE 1- 1LE 1- 2ST 32- 18LE 1- 25LE 12EX",
  "2ST 1- 2ST 1- 1EX 2LE 1EX 62- 7LE 1- 1LE 1- 4LE 1- 15LE 1- 10LE 1ST 6- 47LE 12EX 5- 10NU",
  "6- 4EX 1- 8LE 2- 2LE 2- 22LE 1- 7LE 1- 2LE 1- 5LE 1- 2EX 1LE 7EX 2- 2EX 2- 3EX 2- 1LE 6-",
  "1EX 5- 5LE 2EX 2- 7EX 3- 5EX 11- 10LE 1- 1LE 2- 1LE 1- 38LE 1- 1LE 9EX 1- 1EX 2- 1EX 1-",
  "4EX 1- 5EX 1LE 1EX 1LE 2ST 11- 2EX 29- 53LE 18EX 4LE 2ST 3- 10NU 4- 1EX 3LE 30- 48LE",
  "20EX 2LE 1- 1LE 8- 10NU 166- 47LE 7EX 2- 9EX 1- 2ST 5- 15ST 4LE 2EX 34- 48LE 17EX 2ST 1-",
  "1LE 11- 10NU 38- 43LE 13EX 1LE 7- 10NU 6- 20NU 28- 27LE 2- 15EX 4- 10NU 2- 3ST 1- 7LE",
  "185- 44LE 15EX 101- 32UP 32LO 10NU 21- 8LE 2- 1LE 2- 8LE 1- 2LE 1- 24LE 6EX 1- 2EX 2-",
  "4EX 1LE 1EX 1LE 2EX 1ST 1- 1ST 9- 10NU 70- 8LE 2- 39LE 7EX 2- 7EX 1LE 1- 1LE 1EX 27- 1LE",
  "10EX 40LE 7EX 1LE 4EX 3- 2ST 3- 1EX 8- 1LE 11EX 46LE 16EX 1- 2ST 1LE 18- 73LE 199- 33LE",
  "15- 10NU 6- 9LE 1- 37LE 8EX 1- 8EX 1LE 2ST 13- 10NU 24- 30LE 2- 22EX 1- 14EX 73- 7LE 1-",
  "2LE 1- 38LE 6EX 3- 1EX 1- 2EX 1- 7EX 1LE 1EX 8- 10NU 6- 6LE 1- 2LE 1- 32LE 5EX 1- 2EX 1-",
  "5EX 1LE 7- 10NU 310- 19LE 4EX 2ST 7- 2EX 1LE 1EX 13LE 1- 34LE 7EX 3- 5EX 2ST 11- 10NU",
  "1EX 85- 1LE 79- 922LE 102- 111LE 17- 196LE 2636- 97LE 15- 1072LE 16FO 1EX 6LE 15EX 10-",
  "3995LE 5- 583LE 6841- 30LE 18EX 10NU 1734- 569LE 7- 31LE 1- 10NU 4- 2ST 79LE 1- 10NU 6-",
  "30LE 2- 5EX 1ST 10- 48LE 7EX 2ST 7- 4LE 1ST 11- 10NU 9- 21LE 5- 19LE 432- 45LE 1- 2ST",
  "10NU 198- 32UP 32LO 24- 1ST 103- 75LE 4- 1EX 1LE 55EX 7- 4EX 13LE 64- 2LE 1- 1LE 1EX 11-",
  "2EX 14- 6136LE 8- 1238LE 41- 10LE 8935- 4LE 1- 7LE 1- 2LE 1- 291LE 15- 1LE 29- 3LE 2-",
  "1LE 14- 4LE 8- 396LE 2308- 107LE 5- 13LE 3- 9LE 7- 10LE 3- 2EX 1ST 4FO 4172- 10NU 518-",
  "46EX 2- 23EX 542- 5EX 3- 6EX 8FO 8EX 2- 7EX 30- 4EX 148- 3EX 443- 26UP 26LO 26UP 7LO 1-",
  "18LO 26UP 26LO 1UP 1- 2UP 2- 1UP 2- 2UP 2- 4UP 1- 8UP 4LO 1- 1LO 1- 7LO 1- 11LO 26UP",
  "26LO 2UP 1- 4UP 2- 8UP 1- 7UP 1- 26LO 2UP 1- 4UP 1- 5UP 1- 1UP 3- 7UP 1- 26LO 26UP 26LO",
  "26UP 26LO 26UP 26LO 26UP 26LO 26UP 26LO 26UP 28LO 2- 25UP 1- 25LO 1- 6LO 25UP 1- 25LO 1-",
  "6LO 25UP 1- 25LO 1- 6LO 25UP 1- 25LO 1- 6LO 25UP 1- 25LO 1- 6LO 1UP 1LO 2- 50NU 512-",
  "55EX 4- 50EX 8- 1EX 14- 1EX 3- 1ST 18- 5EX 1- 15EX 1104- 10LO 1LE 20LO 6- 6LO 213- 7EX",
  "1- 17EX 2- 7EX 1- 2EX 1- 5EX 5- 62LO 33- 1EX 112- 45LE 3- 7EX 7LE 2- 10NU 4- 1LE 321-",
  "30LE 1EX 17- 44LE 4EX 10NU 470- 28LE 4EX 10NU 214- 30LE 2EX 1LE 10NU 485- 7LE 1- 4LE 1-",
  "2LE 1- 15LE 1- 197LE 11- 7EX 41- 34UP 34LO 7EX 1LE 4- 10NU 1190- 4LE 1- 27LE 1- 2LE 1-",
  "1LE 2- 1LE 1- 10LE 1- 4LE 1- 1LE 1- 1LE 6- 1LE 4- 1LE 1- 1LE 1- 1LE 1- 3LE 1- 2LE 1- 1LE",
  "2- 1LE 1- 1LE 1- 1LE 1- 1LE 1- 1LE 1- 2LE 1- 1LE 2- 4LE 1- 7LE 1- 4LE 1- 4LE 1- 1LE 1-",
  "10LE 1- 17LE 5- 3LE 1- 5LE 1- 17LE 628- 26UP 6- 26UP 6- 26UP 1260- 3CL 1399- 10NU 1030-",
  "42720LE 32- 4154LE 6- 222LE 2- 5762LE 14- 7473LE 15- 622LE 2466- 542LE 1506- 4939LE 5-",
  "4192LE 711761- 1FO 30- 96EX 128- 240EX 196112-"]

/-- The names of the classes for the division into sentences, in lower case and without
separators. -/
def sentenceBreakNames : List (List String × String) := [
  (["at", "aterm"], "AT"), (["cl", "close"], "CL"), (["cr"], "CR"), (["ex", "extend"], "EX"),
  (["fo", "format"], "FO"), (["le", "oletter"], "LE"), (["lf"], "LF"), (["lo", "lower"], "LO"),
  (["nu", "numeric"], "NU"), (["sc", "scontinue"], "SC"), (["se", "sep"], "SE"), (["sp"], "SP"),
  (["st", "sterm"], "ST"), (["up", "upper"], "UP")]

/-- The code points of a class for the division into sentences. -/
def sentenceBreakNamed? (key : String) : Option CharSet :=
  (sentenceBreakNames.find? fun entry => entry.1.contains key).map fun entry =>
    labelled (runs sentenceBreakRuns) [entry.2]

end FeatureFlags.Pattern.Unicode
