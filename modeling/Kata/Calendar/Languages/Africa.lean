import Kata.Calendar.Language

/-! Date words of the languages of Africa. -/

namespace Kata.Calendar

def afrikaans : Language where
  code := "af"
  order := .ymd
  months := [["januarie", "jan"], ["februarie", "feb"], ["maart", "mrt"], ["april", "apr"], ["mei"],
    ["junie", "jun"], ["julie", "jul"], ["augustus", "aug"], ["september", "sep"],
    ["oktober", "okt"], ["november", "nov"], ["desember", "des"]]

def swahili : Language where
  code := "sw"
  order := .dmy
  months := [["januari", "jan"], ["februari", "feb"], ["machi", "mac"], ["aprili", "apr"], ["mei"],
    ["juni", "jun"], ["julai", "jul"], ["agosti", "ago"], ["septemba", "sep"], ["oktoba", "okt"],
    ["novemba", "nov"], ["desemba", "des"]]

end Kata.Calendar
