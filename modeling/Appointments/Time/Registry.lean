-- An excerpt of the time zone database: zones by their transitions. Zones
-- are found by name, without regard to case.
import Appointments.Time.Zone
import Appointments.Text.Blank
namespace Appointments

/-! ## Entries of the table -/

namespace ZoneTable

/-- The count of an instant given by its date and time in UTC. -/
def utc (year month day hour minute second : Nat) : Int :=
  let days := Calendar.daysBeforeYear year +
    ((Calendar.monthLengths (Calendar.isLeap year)).take (month - 1)).foldl (· + ·) 0 + (day - 1)
  Int.ofNat (days * Micros.day + hour * Micros.hour + minute * Micros.minute +
    second * Micros.second)

/-- An offset in minutes. -/
def minutes (n : Int) : Int := n * Int.ofNat Micros.minute

/-- From an instant on, standard time with an offset in minutes. -/
def std (year month day hour minute second : Nat) (offset : Int) : Transition :=
  ⟨utc year month day hour minute second, ⟨minutes offset, false⟩⟩

/-- From an instant on, daylight saving time with an offset in minutes. -/
def dst (year month day hour minute second : Nat) (offset : Int) : Transition :=
  ⟨utc year month day hour minute second, ⟨minutes offset, true⟩⟩

/-- Standard time from the start of the calendar. -/
def fromStd (offset : Int) : List Transition → ZoneRules := .table ⟨minutes offset, false⟩

/-- Daylight saving time from the start of the calendar. -/
def fromDst (offset : Int) : List Transition → ZoneRules := .table ⟨minutes offset, true⟩

/-- One offset for ever. -/
def always (offset : Int) : ZoneRules := .fixed (minutes offset)

/-! ## Zones that change their offset -/

def cairo : ZoneRules := fromStd 120 [
  dst 2026 4 23 22 0 0 180, std 2026 10 29 21 0 0 120]

def casablanca : ZoneRules := fromStd 60 [
  dst 2026 2 15 2 0 0 0, std 2026 3 22 2 0 0 60]

def monrovia : ZoneRules := fromStd (-44) [
  std 1972 1 7 0 44 30 0]

def adak : ZoneRules := fromStd (-600) [
  dst 2026 3 8 12 0 0 (-540)]

def caracas : ZoneRules := fromStd (-240) [
  std 2007 12 9 7 0 0 (-270), std 2016 5 1 7 0 0 (-240)]

def havana : ZoneRules := fromStd (-300) [
  dst 2026 3 8 5 0 0 (-240), std 2026 11 1 5 0 0 (-300)]

def newYork : ZoneRules := fromStd (-300) [
  dst 2026 3 8 7 0 0 (-240), std 2026 11 1 6 0 0 (-300), dst 2027 3 14 7 0 0 (-240),
  std 2027 11 7 6 0 0 (-300), dst 2028 3 12 7 0 0 (-240), std 2028 11 5 6 0 0 (-300),
  dst 2029 3 11 7 0 0 (-240), std 2029 11 4 6 0 0 (-300), dst 2030 3 10 7 0 0 (-240),
  std 2030 11 3 6 0 0 (-300), dst 2031 3 9 7 0 0 (-240), std 2031 11 2 6 0 0 (-300),
  dst 2032 3 14 7 0 0 (-240), std 2032 11 7 6 0 0 (-300), dst 2033 3 13 7 0 0 (-240),
  std 2033 11 6 6 0 0 (-300), dst 2034 3 12 7 0 0 (-240), std 2034 11 5 6 0 0 (-300),
  dst 2035 3 11 7 0 0 (-240), std 2035 11 4 6 0 0 (-300), dst 2036 3 9 7 0 0 (-240),
  std 2036 11 2 6 0 0 (-300), dst 2037 3 8 7 0 0 (-240), std 2037 11 1 6 0 0 (-300)]

def nuuk : ZoneRules := fromStd (-180) [
  std 2023 3 26 1 0 0 (-120), dst 2024 3 31 1 0 0 (-60), std 2024 10 27 1 0 0 (-120)]

def santiago : ZoneRules := fromDst (-180) [
  std 2026 4 5 3 0 0 (-240), dst 2026 9 6 4 0 0 (-180)]

def saoPaulo : ZoneRules := fromStd (-180) [
  dst 2018 11 4 3 0 0 (-120), std 2019 2 17 2 0 0 (-180)]

def stJohns : ZoneRules := fromStd (-210) [
  dst 2026 3 8 5 30 0 (-150), std 2026 11 1 4 30 0 (-210)]

def troll : ZoneRules := fromStd 0 [
  dst 2026 3 29 1 0 0 120, std 2026 10 25 1 0 0 0]

def beirut : ZoneRules := fromStd 120 [
  dst 2026 3 28 22 0 0 180, std 2026 10 24 21 0 0 120]

def jerusalem : ZoneRules := fromStd 120 [
  dst 2026 3 27 0 0 0 180, std 2026 10 24 23 0 0 120]

def kathmandu : ZoneRules := fromStd 330 [
  std 1985 12 31 18 30 0 345]

def kolkata : ZoneRules := fromStd 330 []

def pyongyang : ZoneRules := fromStd 540 [
  std 2015 8 14 15 0 0 510, std 2018 5 4 15 0 0 540]

def azores : ZoneRules := fromStd (-60) [
  dst 2026 3 29 1 0 0 0, std 2026 10 25 1 0 0 (-60)]

def lordHowe : ZoneRules := fromDst 660 [
  std 2026 4 4 15 0 0 630, dst 2026 10 3 15 30 0 660]

def sydney : ZoneRules := fromDst 660 [
  std 2026 4 4 16 0 0 600, dst 2026 10 3 16 0 0 660]

def berlin : ZoneRules := fromStd 53 [
  std 1901 12 13 20 45 52 60, dst 1916 4 30 22 0 0 120, std 1916 9 30 23 0 0 60,
  dst 1917 4 16 1 0 0 120, std 1917 9 17 1 0 0 60, dst 1918 4 15 1 0 0 120,
  std 1918 9 16 1 0 0 60, dst 1940 4 1 1 0 0 120, std 1942 11 2 1 0 0 60,
  dst 1943 3 29 1 0 0 120, std 1943 10 4 1 0 0 60, dst 1944 4 3 1 0 0 120,
  std 1944 10 2 1 0 0 60, dst 1945 4 2 1 0 0 120, dst 1945 5 24 0 0 0 180,
  dst 1945 9 24 0 0 0 120, std 1945 11 18 1 0 0 60, dst 1946 4 14 1 0 0 120,
  std 1946 10 7 1 0 0 60, dst 1947 4 6 2 0 0 120, dst 1947 5 11 1 0 0 180,
  dst 1947 6 29 0 0 0 120, std 1947 10 5 1 0 0 60, dst 1948 4 18 1 0 0 120,
  std 1948 10 3 1 0 0 60, dst 1949 4 10 1 0 0 120, std 1949 10 2 1 0 0 60,
  dst 1980 4 6 1 0 0 120, std 1980 9 28 1 0 0 60, dst 1981 3 29 1 0 0 120,
  std 1981 9 27 1 0 0 60, dst 1982 3 28 1 0 0 120, std 1982 9 26 1 0 0 60,
  dst 1983 3 27 1 0 0 120, std 1983 9 25 1 0 0 60, dst 1984 3 25 1 0 0 120,
  std 1984 9 30 1 0 0 60, dst 1985 3 31 1 0 0 120, std 1985 9 29 1 0 0 60,
  dst 1986 3 30 1 0 0 120, std 1986 9 28 1 0 0 60, dst 1987 3 29 1 0 0 120,
  std 1987 9 27 1 0 0 60, dst 1988 3 27 1 0 0 120, std 1988 9 25 1 0 0 60,
  dst 1989 3 26 1 0 0 120, std 1989 9 24 1 0 0 60, dst 1990 3 25 1 0 0 120,
  std 1990 9 30 1 0 0 60, dst 1991 3 31 1 0 0 120, std 1991 9 29 1 0 0 60,
  dst 1992 3 29 1 0 0 120, std 1992 9 27 1 0 0 60, dst 1993 3 28 1 0 0 120,
  std 1993 9 26 1 0 0 60, dst 1994 3 27 1 0 0 120, std 1994 9 25 1 0 0 60,
  dst 1995 3 26 1 0 0 120, std 1995 9 24 1 0 0 60, dst 1996 3 31 1 0 0 120,
  std 1996 10 27 1 0 0 60, dst 1997 3 30 1 0 0 120, std 1997 10 26 1 0 0 60,
  dst 1998 3 29 1 0 0 120, std 1998 10 25 1 0 0 60, dst 1999 3 28 1 0 0 120,
  std 1999 10 31 1 0 0 60, dst 2000 3 26 1 0 0 120, std 2000 10 29 1 0 0 60,
  dst 2001 3 25 1 0 0 120, std 2001 10 28 1 0 0 60, dst 2002 3 31 1 0 0 120,
  std 2002 10 27 1 0 0 60, dst 2003 3 30 1 0 0 120, std 2003 10 26 1 0 0 60,
  dst 2004 3 28 1 0 0 120, std 2004 10 31 1 0 0 60, dst 2005 3 27 1 0 0 120,
  std 2005 10 30 1 0 0 60, dst 2006 3 26 1 0 0 120, std 2006 10 29 1 0 0 60,
  dst 2007 3 25 1 0 0 120, std 2007 10 28 1 0 0 60, dst 2008 3 30 1 0 0 120,
  std 2008 10 26 1 0 0 60, dst 2009 3 29 1 0 0 120, std 2009 10 25 1 0 0 60,
  dst 2010 3 28 1 0 0 120, std 2010 10 31 1 0 0 60, dst 2011 3 27 1 0 0 120,
  std 2011 10 30 1 0 0 60, dst 2012 3 25 1 0 0 120, std 2012 10 28 1 0 0 60,
  dst 2013 3 31 1 0 0 120, std 2013 10 27 1 0 0 60, dst 2014 3 30 1 0 0 120,
  std 2014 10 26 1 0 0 60, dst 2015 3 29 1 0 0 120, std 2015 10 25 1 0 0 60,
  dst 2016 3 27 1 0 0 120, std 2016 10 30 1 0 0 60, dst 2017 3 26 1 0 0 120,
  std 2017 10 29 1 0 0 60, dst 2018 3 25 1 0 0 120, std 2018 10 28 1 0 0 60,
  dst 2019 3 31 1 0 0 120, std 2019 10 27 1 0 0 60, dst 2020 3 29 1 0 0 120,
  std 2020 10 25 1 0 0 60, dst 2021 3 28 1 0 0 120, std 2021 10 31 1 0 0 60,
  dst 2022 3 27 1 0 0 120, std 2022 10 30 1 0 0 60, dst 2023 3 26 1 0 0 120,
  std 2023 10 29 1 0 0 60, dst 2024 3 31 1 0 0 120, std 2024 10 27 1 0 0 60,
  dst 2025 3 30 1 0 0 120, std 2025 10 26 1 0 0 60, dst 2026 3 29 1 0 0 120,
  std 2026 10 25 1 0 0 60, dst 2027 3 28 1 0 0 120, std 2027 10 31 1 0 0 60,
  dst 2028 3 26 1 0 0 120, std 2028 10 29 1 0 0 60, dst 2029 3 25 1 0 0 120,
  std 2029 10 28 1 0 0 60, dst 2030 3 31 1 0 0 120, std 2030 10 27 1 0 0 60,
  dst 2031 3 30 1 0 0 120, std 2031 10 26 1 0 0 60, dst 2032 3 28 1 0 0 120,
  std 2032 10 31 1 0 0 60, dst 2033 3 27 1 0 0 120, std 2033 10 30 1 0 0 60,
  dst 2034 3 26 1 0 0 120, std 2034 10 29 1 0 0 60, dst 2035 3 25 1 0 0 120,
  std 2035 10 28 1 0 0 60, dst 2036 3 30 1 0 0 120, std 2036 10 26 1 0 0 60,
  dst 2037 3 29 1 0 0 120, std 2037 10 25 1 0 0 60]

def dublin : ZoneRules := fromDst 0 [
  std 2026 3 29 1 0 0 60, dst 2026 10 25 1 0 0 0]

def istanbul : ZoneRules := fromStd 120 [
  dst 2016 3 27 1 0 0 180, std 2016 9 6 21 0 0 180]

def london : ZoneRules := fromStd 0 [
  dst 2026 3 29 1 0 0 60, std 2026 10 25 1 0 0 0]

def moscow : ZoneRules := fromStd 180 [
  std 2011 3 26 23 0 0 240, std 2014 10 25 22 0 0 180]

def volgograd : ZoneRules := fromStd 180 [
  std 2018 10 27 23 0 0 240, std 2020 12 26 22 0 0 180]

def warsaw : ZoneRules := fromStd 84 [
  std 1915 8 4 22 36 0 60]

def apia : ZoneRules := fromDst (-600) [
  dst 2011 12 30 10 0 0 840]

def chatham : ZoneRules := fromDst 825 [
  std 2026 4 4 14 0 0 765, dst 2026 9 26 14 0 0 825]

def kiritimati : ZoneRules := fromStd 840 []

def kwajalein : ZoneRules := fromStd (-720) [
  std 1993 8 21 12 0 0 720]

def niue : ZoneRules := fromStd (-660) []

end ZoneTable

/-! ## The registry -/

/-- The zones that can be named. -/
structure Registry where
  zones : List Zone
deriving Repr

namespace Registry

open ZoneTable in
/-- The zones of the excerpt: 45 names of the time zone database, most of them
with the changes of 2026 only. -/
def standard : Registry where
  zones := [
    ⟨"UTC", always 0⟩,
    ⟨"GMT", always 0⟩,
    ⟨"UCT", always 0⟩,
    ⟨"Zulu", always 0⟩,
    ⟨"Etc/UTC", always 0⟩,
    ⟨"Etc/GMT+5", always (-300)⟩,
    ⟨"Etc/GMT+12", always (-720)⟩,
    ⟨"Etc/GMT-14", always 840⟩,
    ⟨"Africa/Cairo", cairo⟩,
    ⟨"Africa/Casablanca", casablanca⟩,
    ⟨"Africa/Monrovia", monrovia⟩,
    ⟨"America/Adak", adak⟩,
    ⟨"America/Caracas", caracas⟩,
    ⟨"America/Havana", havana⟩,
    ⟨"America/New_York", newYork⟩,
    ⟨"America/Nuuk", nuuk⟩,
    ⟨"America/Santiago", santiago⟩,
    ⟨"America/Sao_Paulo", saoPaulo⟩,
    ⟨"America/St_Johns", stJohns⟩,
    ⟨"Antarctica/Troll", troll⟩,
    ⟨"Asia/Beirut", beirut⟩,
    ⟨"Asia/Jerusalem", jerusalem⟩,
    ⟨"Asia/Kathmandu", kathmandu⟩,
    ⟨"Asia/Kolkata", kolkata⟩,
    ⟨"Asia/Pyongyang", pyongyang⟩,
    ⟨"Atlantic/Azores", azores⟩,
    ⟨"Australia/Lord_Howe", lordHowe⟩,
    ⟨"Australia/Sydney", sydney⟩,
    ⟨"Europe/Berlin", berlin⟩,
    ⟨"Europe/Dublin", dublin⟩,
    ⟨"Europe/Istanbul", istanbul⟩,
    ⟨"Europe/London", london⟩,
    ⟨"Europe/Moscow", moscow⟩,
    ⟨"Europe/Volgograd", volgograd⟩,
    ⟨"Europe/Warsaw", warsaw⟩,
    ⟨"Pacific/Apia", apia⟩,
    ⟨"Pacific/Chatham", chatham⟩,
    ⟨"Pacific/Kiritimati", kiritimati⟩,
    ⟨"Pacific/Kwajalein", kwajalein⟩,
    ⟨"Pacific/Niue", niue⟩,
    ⟨"America/Argentina/Buenos_Aires", always (-180)⟩,
    ⟨"Asia/Calcutta", kolkata⟩,
    ⟨"CET", berlin⟩,
    ⟨"EST5EDT", newYork⟩,
    ⟨"US/Eastern", newYork⟩]

/-- The zone with exactly this name. -/
def find? (r : Registry) (name : String) : Option Zone := r.zones.find? (·.name == name)

/-- A text with each occurrence of a pattern replaced, where `skip`
characters of an occurrence are still to be passed over. -/
def replaceAll (pattern replacement : List Char) (skip : Nat) : List Char → List Char
  | [] => []
  | c :: cs =>
    match skip with
    | skip + 1 => replaceAll pattern replacement skip cs
    | 0 =>
      if pattern.isPrefixOf (c :: cs) then
        replacement ++ replaceAll pattern replacement (pattern.length - 1) cs
      else c :: replaceAll pattern replacement 0 cs

/-- A name with its signs spelled as signs. -/
def withSigns (name : String) : String :=
  let cs := replaceAll "_plus_".toList ['+'] 0 name.toList
  String.ofList (replaceAll "_minus_".toList ['-'] 0 cs)

/-- The zone that a text names. UTC goes by its name in any case; the other
names are of ASCII, may spell their signs out, and disregard case. -/
def named? (r : Registry) (name : String) : Option Zone :=
  if name.toUpper = "UTC" then r.find? "UTC"
  else if name.toList.all (·.toNat < 0x80) then
    let wanted := (withSigns name).toLower
    r.zones.find? (·.name.toLower == wanted)
  else none

end Registry
end Appointments
