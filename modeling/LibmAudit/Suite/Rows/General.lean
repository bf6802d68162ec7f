/-
**Rows for every format.**

* `Row`: the literals of a row, the expected outputs first and the inputs after them.
* `generalRows`: the rows of a routine that hold in every format with at least the precision and the
  range of the 32-bit one, because their results are exact or special values.
-/

import LibmAudit.Literal
import LibmAudit.Routine

namespace LibmAudit.Suite

/-- The literals of a row. -/
abbrev Row := List Value

/-- A row of texts. -/
def texts (literals : List String) : Row := literals.map .text

/-- The rows of a routine that hold in every format. -/
def generalRows : Routine → List Row
  | .acos => [texts ["0", "1"], texts ["nan", "2"], texts ["nan", "-1.5"], texts ["nan", "nan"]]
  | .asin => [texts ["0", "0"], texts ["-0", "-0"], texts ["nan", "2"], texts ["nan", "nan"]]
  | .atan => [
    texts ["0", "0"], texts ["-0", "-0"], texts ["0x1p-100", "0x1p-100"], texts ["nan", "nan"]]
  | .atan2 => [
    texts ["0", "0", "1"], texts ["-0", "-0", "1"], texts ["nan", "nan", "1"],
    texts ["nan", "1", "nan"]]
  | .sin => [
    texts ["0", "0"], texts ["-0", "-0"], texts ["0x1p-100", "0x1p-100"],
    texts ["-0x1p-100", "-0x1p-100"], texts ["nan", "inf"], texts ["nan", "-inf"],
    texts ["nan", "nan"]]
  | .cos => [
    texts ["1", "0"], texts ["1", "-0"], texts ["1", "0x1p-100"], texts ["nan", "inf"],
    texts ["nan", "nan"]]
  | .tan => [
    texts ["0", "0"], texts ["-0", "-0"], texts ["0x1p-100", "0x1p-100"], texts ["nan", "inf"],
    texts ["nan", "nan"]]
  | .sincos => [
    texts ["0", "1", "0"], texts ["-0", "1", "-0"], texts ["0x1p-100", "1", "0x1p-100"],
    texts ["nan", "nan", "inf"], texts ["nan", "nan", "nan"]]
  | .sinh => [
    texts ["0", "0"], texts ["-0", "-0"], texts ["0x1p-100", "0x1p-100"], texts ["inf", "inf"],
    texts ["-inf", "-inf"], texts ["nan", "nan"]]
  | .cosh => [
    texts ["1", "0"], texts ["1", "-0"], texts ["inf", "inf"], texts ["inf", "-inf"],
    texts ["nan", "nan"]]
  | .tanh => [
    texts ["0", "0"], texts ["-0", "-0"], texts ["1", "100"], texts ["-1", "-100"],
    texts ["1", "inf"], texts ["-1", "-inf"], texts ["nan", "nan"]]
  | .asinh => [
    texts ["0", "0"], texts ["-0", "-0"], texts ["inf", "inf"], texts ["-inf", "-inf"],
    texts ["nan", "nan"]]
  | .acosh => [texts ["0", "1"], texts ["nan", "0.5"], texts ["inf", "inf"], texts ["nan", "nan"]]
  | .atanh => [
    texts ["0", "0"], texts ["-0", "-0"], texts ["inf", "1"], texts ["-inf", "-1"],
    texts ["nan", "2"], texts ["nan", "nan"]]
  | .exp => [
    texts ["1", "0"], texts ["1", "-0"], texts ["inf", "1e6"], texts ["0", "-1e6"],
    texts ["inf", "inf"], texts ["0", "-inf"], texts ["nan", "nan"]]
  | .exp2 => [
    texts ["1", "0"], texts ["0x1p+10", "10"], texts ["0x1p-10", "-10"], texts ["inf", "inf"],
    texts ["0", "-inf"], texts ["nan", "nan"]]
  | .expm1 => [
    texts ["0", "0"], texts ["-0", "-0"], texts ["-1", "-1e4"], texts ["inf", "inf"],
    texts ["-1", "-inf"], texts ["nan", "nan"]]
  | .log => [
    texts ["0", "1"], texts ["-inf", "0"], texts ["-inf", "-0"], texts ["nan", "-1"],
    texts ["inf", "inf"], texts ["nan", "nan"]]
  | .log2 => [
    texts ["0", "1"], texts ["3", "8"], texts ["-3", "0.125"], texts ["-140", "0x1p-140"],
    texts ["-inf", "0"], texts ["nan", "-1"], texts ["inf", "inf"], texts ["nan", "nan"]]
  | .log10 => [
    texts ["0", "1"], texts ["3", "1000"], texts ["-inf", "0"], texts ["nan", "-1"],
    texts ["inf", "inf"], texts ["nan", "nan"]]
  | .log1p => [
    texts ["0", "0"], texts ["-0", "-0"], texts ["-inf", "-1"], texts ["nan", "-2"],
    texts ["inf", "inf"], texts ["nan", "nan"]]
  | .pow => [
    texts ["8", "2", "3"], texts ["0.125", "2", "-3"], texts ["1", "nan", "0"],
    texts ["1", "nan", "-0"], texts ["1", "1", "nan"], texts ["inf", "0", "-1"],
    texts ["-inf", "-0", "-1"], texts ["-0", "-0", "3"], texts ["0", "-0", "2"],
    texts ["nan", "-1", "0.5"], texts ["1", "-1", "inf"], texts ["0", "0.5", "inf"],
    texts ["nan", "nan", "1"]]
  | .sqrt => [
    texts ["2", "4"], texts ["0x1p-70", "0x1p-140"], texts ["0", "0"], texts ["-0", "-0"],
    texts ["nan", "-1"], texts ["inf", "inf"], texts ["nan", "-inf"], texts ["nan", "nan"]]
  | .cbrt => [
    texts ["3", "27"], texts ["-3", "-27"], texts ["0x1p-40", "0x1p-120"], texts ["0", "0"],
    texts ["-0", "-0"], texts ["inf", "inf"], texts ["-inf", "-inf"], texts ["nan", "nan"]]
  | .hypot => [
    texts ["5", "3", "4"], texts ["3", "-3", "0"], texts ["inf", "inf", "nan"],
    texts ["inf", "nan", "-inf"], texts ["nan", "nan", "1"]]
  | .fma => [
    texts ["7", "2", "3", "1"], texts ["0", "1", "1", "-1"], texts ["-0", "-0", "1", "-0"],
    texts ["inf", "inf", "1", "1"], texts ["nan", "inf", "0", "1"], texts ["nan", "nan", "1", "1"]]
  | .erf => [
    texts ["0", "0"], texts ["-0", "-0"], texts ["1", "10"], texts ["-1", "-10"],
    texts ["1", "inf"], texts ["-1", "-inf"], texts ["nan", "nan"]]
  | .erfc => [
    texts ["1", "0"], texts ["2", "-10"], texts ["2", "-inf"], texts ["0", "inf"],
    texts ["nan", "nan"]]
  | .lgamma => [
    texts ["0", "1"], texts ["0", "2"], texts ["inf", "0"], texts ["inf", "-1"],
    texts ["inf", "inf"], texts ["inf", "-inf"], texts ["nan", "nan"]]
  | .lgamma_r => [
    [.text "0", .int 1, .text "1"], [.text "0", .int 1, .text "2"],
    [.text "inf", .int 1, .text "0"], [.text "inf", .int (-1), .text "-0"],
    [.none, .int (-1), .text "-0.5"], [.none, .int 1, .text "-1.5"],
    [.none, .int (-1), .text "-2.5"], [.text "inf", .none, .text "-1"],
    [.text "inf", .int 1, .text "inf"], [.text "nan", .none, .text "nan"]]
  | .tgamma => [
    texts ["1", "1"], texts ["1", "2"], texts ["24", "5"], texts ["inf", "0"],
    texts ["-inf", "-0"], texts ["nan", "-1"], texts ["nan", "-inf"], texts ["inf", "inf"],
    texts ["nan", "nan"]]
  | .fabs => [texts ["1", "-1"], texts ["0", "-0"], texts ["inf", "-inf"], texts ["nan", "nan"]]
  | .copysign => [
    texts ["-1", "1", "-0"], texts ["1", "-1", "0"], texts ["-inf", "inf", "-1"],
    texts ["0", "-0", "1"], texts ["-0", "0", "-1"], texts ["nan", "nan", "-1"]]
  | .fdim => [
    texts ["1", "3", "2"], texts ["0", "2", "3"], texts ["0", "-inf", "-inf"],
    texts ["inf", "inf", "1"], texts ["nan", "nan", "1"]]
  | .fmax => [
    texts ["2", "1", "2"], texts ["1", "1", "nan"], texts ["1", "nan", "1"],
    texts ["inf", "-inf", "inf"], texts ["nan", "nan", "nan"]]
  | .fmin => [
    texts ["1", "1", "2"], texts ["1", "nan", "1"], texts ["-inf", "-inf", "inf"],
    texts ["nan", "nan", "nan"]]
  | .nextafter => [
    texts ["1", "1", "1"], texts ["-0", "0", "-0"], texts ["nan", "nan", "1"],
    texts ["nan", "1", "nan"]]
  | .ceil => [
    texts ["2", "1.5"], texts ["-1", "-1.5"], texts ["-0", "-0.5"], texts ["1", "0x1p-140"],
    texts ["-0", "-0"], texts ["inf", "inf"], texts ["nan", "nan"]]
  | .floor => [
    texts ["1", "1.5"], texts ["-2", "-1.5"], texts ["-1", "-0.5"], texts ["0", "0.5"],
    texts ["-0", "-0"], texts ["-inf", "-inf"], texts ["nan", "nan"]]
  | .trunc => [
    texts ["1", "1.5"], texts ["-1", "-1.5"], texts ["-0", "-0.5"], texts ["0", "0.5"],
    texts ["inf", "inf"], texts ["nan", "nan"]]
  | .round => [
    texts ["3", "2.5"], texts ["-3", "-2.5"], texts ["2", "1.5"], texts ["1", "0.5"],
    texts ["-0", "-0.4"], texts ["inf", "inf"], texts ["nan", "nan"]]
  | .rint => [
    texts ["2", "2.5"], texts ["4", "3.5"], texts ["2", "1.5"], texts ["-2", "-2.5"],
    texts ["0", "0.5"], texts ["-0", "-0.5"], texts ["inf", "inf"], texts ["nan", "nan"]]
  | .nearbyint => [
    texts ["2", "2.5"], texts ["4", "3.5"], texts ["2", "1.5"], texts ["-2", "-2.5"],
    texts ["0", "0.5"], texts ["-0", "-0.5"], texts ["inf", "inf"], texts ["nan", "nan"]]
  | .frexp => [
    [.text "0.5", .int 11, .text "1024"], [.text "0.5", .int (-139), .text "0x1p-140"],
    [.text "-0.75", .int 2, .text "-3"], [.text "0", .int 0, .text "0"],
    [.text "-0", .int 0, .text "-0"], [.text "inf", .none, .text "inf"],
    [.text "nan", .none, .text "nan"]]
  | .modf => [
    texts ["0.75", "123", "123.75"], texts ["-0.5", "-1", "-1.5"], texts ["-0", "-2", "-2"],
    texts ["0", "inf", "inf"], texts ["-0", "-inf", "-inf"], texts ["nan", "nan", "nan"]]
  | .ilogb => [
    [.int 10, .text "1024"], [.int (-140), .text "0x1p-140"], [.int 0, .text "1"],
    [.int 1, .text "-3"], [.int 2147483647, .text "inf"], [.int 2147483647, .text "-inf"],
    [.none, .text "0"], [.none, .text "nan"]]
  | .logb => [
    texts ["10", "1024"], texts ["-140", "0x1p-140"], texts ["1", "-3"], texts ["-inf", "0"],
    texts ["inf", "-inf"], texts ["nan", "nan"]]
  | .significand => [
    texts ["1.5", "6"], texts ["-1.5", "-0.75"], texts ["1", "0x1p-140"], texts ["0", "0"],
    texts ["inf", "inf"], texts ["nan", "nan"]]
  | .ldexp => [
    [.text "0x1p+10", .text "1", .int 10], [.text "-0x1p-140", .text "-1", .int (-140)],
    [.text "inf", .text "1", .int 100000], [.text "0", .text "1", .int (-100000)],
    [.text "-0", .text "-0", .int 5], [.text "inf", .text "inf", .int (-5)],
    [.text "nan", .text "nan", .int 1]]
  | .scalbn => [
    [.text "0x1p+10", .text "1", .int 10], [.text "-0x1p-140", .text "-1", .int (-140)],
    [.text "inf", .text "1", .int 100000], [.text "0", .text "1", .int (-100000)],
    [.text "-0", .text "-0", .int 5], [.text "nan", .text "nan", .int 1]]
  | .scalb => [
    texts ["0x1p+10", "1", "10"], texts ["-0x1p-140", "-1", "-140"], texts ["inf", "1", "1e6"],
    texts ["-0", "-1", "-1e6"], texts ["-0", "-0", "5"], texts ["-inf", "-3", "inf"],
    texts ["0", "3", "-inf"], texts ["nan", "0", "inf"], texts ["nan", "inf", "-inf"],
    texts ["nan", "1", "0.5"], texts ["nan", "nan", "1"], texts ["nan", "1", "nan"]]
  | .fmod => [
    texts ["1", "7", "3"], texts ["-1", "-7", "3"], texts ["1", "7", "-3"], texts ["0", "6", "3"],
    texts ["-0", "-6", "3"], texts ["1.5", "1.5", "inf"], texts ["nan", "1", "0"],
    texts ["nan", "inf", "1"], texts ["nan", "nan", "1"]]
  | .remainder => [
    texts ["1", "13", "4"], texts ["-2", "14", "4"], texts ["2", "10", "4"],
    texts ["-1", "-13", "4"], texts ["-0", "-8", "4"], texts ["1", "1", "inf"],
    texts ["nan", "1", "0"], texts ["nan", "inf", "1"], texts ["nan", "nan", "1"]]
  | .remquo => [
    [.text "1", .int 3, .text "13", .text "4"], [.text "-2", .int 4, .text "14", .text "4"],
    [.text "2", .int 2, .text "10", .text "4"], [.text "-1", .int (-3), .text "-13", .text "4"],
    [.text "1", .int (-3), .text "13", .text "-4"], [.text "1", .int 99, .text "397", .text "4"],
    [.text "nan", .none, .text "1", .text "0"], [.text "nan", .none, .text "inf", .text "1"]]

end LibmAudit.Suite
