-- SUMMARY: Units of measurement and the conversion between them.
import GenreProse.Text.Basic

/-!
# Units

Every unit has a factor to the standard unit of its quantity. A temperature has an offset to the
absolute zero as well, which is added before the factor is applied.
-/

namespace GenreProse

/-- What a unit measures. -/
inductive Quantity where
  | length
  | mass
  | area
  | volume
  | speed
  | temperature
  deriving DecidableEq, Repr

structure MeasureUnit where
  quantity : Quantity
  symbol : String
  singular : String
  plural : String
  /-- How many standard units the unit is. -/
  factor : Float
  /-- The code of the unit that values are converted to by default. -/
  target : String
  /-- The American spellings of the names, if they differ. -/
  american : Option (String × String) := none
  /-- What is added to reach the zero of the standard unit. -/
  offset : Float := 0.0

namespace MeasureUnit

def table : List (String × MeasureUnit) :=
  [
    ("m",
      { quantity := .length, symbol := "m", singular := "metre", plural := "metres",
        factor := 1.0, target := "ft", american := some ("meter", "meters") }),
    ("km",
      { quantity := .length, symbol := "km", singular := "kilometre", plural := "kilometres",
        factor := 1000.0, target := "mi", american := some ("kilometer", "kilometers") }),
    ("cm",
      { quantity := .length, symbol := "cm", singular := "centimetre", plural := "centimetres",
        factor := 0.01, target := "in", american := some ("centimeter", "centimeters") }),
    ("mm",
      { quantity := .length, symbol := "mm", singular := "millimetre", plural := "millimetres",
        factor := 0.001, target := "in", american := some ("millimeter", "millimeters") }),
    ("mi",
      { quantity := .length, symbol := "mi", singular := "mile", plural := "miles",
        factor := 1609.344, target := "km" }),
    ("yd",
      { quantity := .length, symbol := "yd", singular := "yard", plural := "yards",
        factor := 0.9144, target := "m" }),
    ("ft",
      { quantity := .length, symbol := "ft", singular := "foot", plural := "feet",
        factor := 0.3048, target := "m" }),
    ("in",
      { quantity := .length, symbol := "in", singular := "inch", plural := "inches",
        factor := 0.0254, target := "cm" }),
    ("nmi",
      { quantity := .length, symbol := "nmi", singular := "nautical mile",
        plural := "nautical miles",
        factor := 1852.0, target := "km" }),
    ("kg",
      { quantity := .mass, symbol := "kg", singular := "kilogram", plural := "kilograms",
        factor := 1.0, target := "lb" }),
    ("g",
      { quantity := .mass, symbol := "g", singular := "gram", plural := "grams",
        factor := 0.001, target := "oz" }),
    ("t",
      { quantity := .mass, symbol := "t", singular := "tonne", plural := "tonnes",
        factor := 1000.0, target := "ShortTon" }),
    ("ShortTon",
      { quantity := .mass, symbol := "short ton", singular := "short ton", plural := "short tons",
        factor := 907.18474, target := "t" }),
    ("lb",
      { quantity := .mass, symbol := "lb", singular := "pound", plural := "pounds",
        factor := 0.45359237, target := "kg" }),
    ("oz",
      { quantity := .mass, symbol := "oz", singular := "ounce", plural := "ounces",
        factor := 0.028349523125, target := "g" }),
    ("st",
      { quantity := .mass, symbol := "st", singular := "stone", plural := "stone",
        factor := 6.35029318, target := "kg" }),
    ("m2",
      { quantity := .area, symbol := "m²", singular := "square metre", plural := "square metres",
        factor := 1.0, target := "sqft", american := some ("square meter", "square meters") }),
    ("km2",
      { quantity := .area, symbol := "km²", singular := "square kilometre",
        plural := "square kilometres",
        factor := 1000000.0, target := "sqmi",
        american := some ("square kilometer", "square kilometers") }),
    ("ha",
      { quantity := .area, symbol := "ha", singular := "hectare", plural := "hectares",
        factor := 10000.0, target := "acre" }),
    ("sqft",
      { quantity := .area, symbol := "sq ft", singular := "square foot", plural := "square feet",
        factor := 0.09290304, target := "m2" }),
    ("sqmi",
      { quantity := .area, symbol := "sq mi", singular := "square mile", plural := "square miles",
        factor := 2589988.110336, target := "km2" }),
    ("acre",
      { quantity := .area, symbol := "acre", singular := "acre", plural := "acres",
        factor := 4046.8564224, target := "ha" }),
    ("l",
      { quantity := .volume, symbol := "L", singular := "litre", plural := "litres",
        factor := 0.001, target := "USgal", american := some ("liter", "liters") }),
    ("ml",
      { quantity := .volume, symbol := "ml", singular := "millilitre", plural := "millilitres",
        factor := 1e-6, target := "USfloz", american := some ("milliliter", "milliliters") }),
    ("m3",
      { quantity := .volume, symbol := "m³", singular := "cubic metre", plural := "cubic metres",
        factor := 1.0, target := "cuft", american := some ("cubic meter", "cubic meters") }),
    ("cuft",
      { quantity := .volume, symbol := "cu ft", singular := "cubic foot", plural := "cubic feet",
        factor := 0.028316846592, target := "m3" }),
    ("USgal",
      { quantity := .volume, symbol := "US gal", singular := "US gallon", plural := "US gallons",
        factor := 0.003785411784, target := "l" }),
    ("impgal",
      { quantity := .volume, symbol := "imp gal", singular := "imperial gallon",
        plural := "imperial gallons",
        factor := 0.00454609, target := "l" }),
    ("USfloz",
      { quantity := .volume, symbol := "US fl oz", singular := "US fluid ounce",
        plural := "US fluid ounces",
        factor := 2.95735295625e-5, target := "ml" }),
    ("km/h",
      { quantity := .speed, symbol := "km/h", singular := "kilometre per hour",
        plural := "kilometres per hour",
        factor := 1.0 / 3.6, target := "mph",
        american := some ("kilometer per hour", "kilometers per hour") }),
    ("mph",
      { quantity := .speed, symbol := "mph", singular := "mile per hour",
        plural := "miles per hour",
        factor := 0.44704, target := "km/h" }),
    ("m/s",
      { quantity := .speed, symbol := "m/s", singular := "metre per second",
        plural := "metres per second",
        factor := 1.0, target := "ft/s",
        american := some ("meter per second", "meters per second") }),
    ("ft/s",
      { quantity := .speed, symbol := "ft/s", singular := "foot per second",
        plural := "feet per second",
        factor := 0.3048, target := "m/s" }),
    ("kn",
      { quantity := .speed, symbol := "kn", singular := "knot", plural := "knots",
        factor := 1852.0 / 3600.0, target := "km/h" }),
    ("C",
      { quantity := .temperature, symbol := "°C", singular := "degree Celsius",
        plural := "degrees Celsius",
        factor := 1.0, target := "F", offset := 273.15 }),
    ("F",
      { quantity := .temperature, symbol := "°F", singular := "degree Fahrenheit",
        plural := "degrees Fahrenheit",
        factor := 5.0 / 9.0, target := "C", offset := 459.67 }),
    ("K",
      { quantity := .temperature, symbol := "K", singular := "kelvin", plural := "kelvins",
        factor := 1.0, target := "C" })
  ]

/-- Other spellings of codes. -/
def spellings : List (String × String) :=
  [
    ("metre", "m"), ("meter", "m"), ("metres", "m"), ("meters", "m"), ("kilometre", "km"),
    ("kilometer", "km"), ("kilometres", "km"), ("kilometers", "km"), ("mile", "mi"),
    ("miles", "mi"), ("foot", "ft"), ("feet", "ft"), ("inch", "in"), ("kilogram", "kg"),
    ("kilograms", "kg"), ("pound", "lb"), ("pounds", "lb"), ("L", "l"), ("litre", "l"),
    ("liter", "l"), ("mL", "ml"), ("kph", "km/h"), ("kmh", "km/h"), ("knot", "kn"),
    ("knots", "kn"), ("°C", "C"), ("°F", "F"), ("sqkm", "km2"), ("acres", "acre")
  ]

def find? (code : String) : Option MeasureUnit :=
  table.lookup code <|> (spellings.lookup code).bind fun spelled => table.lookup spelled

/-- The value in another unit of the same quantity. -/
def convert (source target : MeasureUnit) (value : Float) : Float :=
  (value + source.offset) * source.factor / target.factor - target.offset

end MeasureUnit

end GenreProse
