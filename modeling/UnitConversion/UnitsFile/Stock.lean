import UnitConversion.UnitsFile.Reader

/-!
# The stock units

The units that are known when no units file is given, as the lines of a units file. The reference
units are millimetre, millilitre, square centimetre, joule, watt, gram, newton, newton-metre,
centimetre per second, pascal, kelvin and litre per hundred kilometres.
-/

namespace UnitConversion.UnitsFile

/-- The lines that declare the stock units. -/
def stockLines : List String :=
  [
   -- length
   "[inch]", "aliases = in", "type = length", "conv_factor = 25.4",
   "[foot]", "aliases = ft", "type = length", "conv_factor = 304.8",
   "[yard]", "aliases = yd", "type = length", "conv_factor = 914.4",
   "[mile]", "aliases = mi", "type = length", "conv_factor = 1609344",
   "[nautical-mile]", "aliases = nmi", "type = length", "conv_factor = 1852000",
   "[millimetre]", "aliases = millimeter, mm", "type = length", "conv_factor = 1",
   "[centimetre]", "aliases = centimeter, cm", "type = length", "conv_factor = 10",
   "[metre]", "aliases = meter, m", "type = length", "conv_factor = 1000",
   "[kilometre]", "aliases = kilometer, km", "type = length", "conv_factor = 1e6",
   -- volume
   "[teaspoon]", "aliases = tsp", "type = volume", "conv_factor = 4.92892159375",
   "[tablespoon]", "aliases = tbsp", "type = volume", "conv_factor = 14.78676478125",
   "[fluid-ounce]", "aliases = floz", "type = volume", "conv_factor = 29.5735295625",
   "[shot]", "type = volume", "conv_factor = 44.36029434375",
   "[cup]", "aliases = cp", "type = volume", "conv_factor = 236.5882365",
   "[pint]", "aliases = pt", "type = volume", "conv_factor = 473.176473",
   "[quart]", "aliases = qt", "type = volume", "conv_factor = 946.352946",
   "[gallon]", "aliases = gal", "type = volume", "conv_factor = 3785.411784",
   "[cubic-inch]", "aliases = cubic-in, in3, ci, cid, cu-in", "type = volume",
     "conv_factor = 16.387064", "dimensions = 3",
   "[cubic-foot]", "aliases = cu-ft, ft3", "type = volume", "conv_factor = 28316.846592",
     "dimensions = 3",
   "[cubic-yard]", "aliases = cu-yd, yd3", "type = volume", "conv_factor = 764554.857984",
     "dimensions = 3",
   "[millilitre]", "aliases = milliliter, ml, mL", "type = volume", "conv_factor = 1",
   "[cubic-centimetre]", "aliases = cubic-centimeter, cm3, cc", "type = volume",
     "conv_factor = 1", "dimensions = 3",
   "[litre]", "aliases = liter, l, L", "type = volume", "conv_factor = 1000",
   "[cubic-metre]", "aliases = cubic-meter, m3", "type = volume", "conv_factor = 1e6",
     "dimensions = 3",
   -- area
   "[square-inch]", "aliases = sq-in, in2", "type = area", "conv_factor = 6.4516",
     "dimensions = 2",
   "[square-foot]", "aliases = sq-ft, ft2", "type = area", "conv_factor = 929.0304",
     "dimensions = 2",
   "[square-yard]", "aliases = sq-yd, yd2", "type = area", "conv_factor = 8361.2736",
     "dimensions = 2",
   "[square-mile]", "aliases = sq-mi, mi2", "type = area", "conv_factor = 10196803584",
     "dimensions = 2",
   "[acre]", "type = area", "conv_factor = 40468564.224",
   "[square-millimetre]", "aliases = square-millimeter, mm2", "type = area", "conv_factor = 0.01",
     "dimensions = 2",
   "[square-centimetre]", "aliases = square-centimeter, cm2", "type = area", "conv_factor = 1",
     "dimensions = 2",
   "[square-metre]", "aliases = square-meter, m2", "type = area", "conv_factor = 10000",
     "dimensions = 2",
   "[square-kilometre]", "aliases = square-kilometer, km2", "type = area", "conv_factor = 1e10",
     "dimensions = 2",
   -- energy
   "[joule]", "aliases = J", "type = energy", "conv_factor = 1",
   "[electron-volt]", "aliases = eV, ev", "type = energy", "conv_factor = 1.602176565e-19",
   "[kilowatt-hour]", "aliases = kWh", "type = energy", "conv_factor = 3600000",
   "[british-thermal-unit]", "aliases = btu, BTU", "type = energy", "conv_factor = 1055.05585262",
   "[calorie]", "aliases = cal", "type = energy", "conv_factor = 4.184",
   "[kilocalorie]", "aliases = food-calorie, kcal", "type = energy", "conv_factor = 4184",
   -- power
   "[watt]", "aliases = W", "type = power", "conv_factor = 1",
   "[kilowatt]", "aliases = kW", "type = power", "conv_factor = 1000",
   "[horsepower]", "aliases = hp", "type = power", "conv_factor = 745.7",
   "[metric-horsepower]", "aliases = ps", "type = power", "conv_factor = 735.49875",
   -- mass
   "[ounce]", "aliases = oz", "type = mass", "conv_factor = 28.349523125",
   "[grain]", "aliases = gr", "type = mass", "conv_factor = 64.79891e-3",
   "[pound]", "aliases = pound-mass, lb, lbm", "type = mass", "conv_factor = 453.59237",
   "[short-ton]", "aliases = ton", "type = mass", "conv_factor = 907184.74",
   "[long-ton]", "type = mass", "conv_factor = 1016046.9088",
   "[milligram]", "aliases = mg", "type = mass", "conv_factor = 0.001",
   "[gram]", "aliases = g", "type = mass", "conv_factor = 1",
   "[kilogram]", "aliases = kg", "type = mass", "conv_factor = 1000",
   "[tonne]", "aliases = metric-ton", "type = mass", "conv_factor = 1e6",
   -- force
   "[pound-force]", "aliases = lbf", "type = force", "conv_factor = 4.4482216152605",
   "[newton]", "aliases = N", "type = force", "conv_factor = 1",
   "[kilogram-force]", "aliases = kgf", "type = force", "conv_factor = 9.80665",
   -- torque
   "[pound-foot]", "aliases = lbft, lb-ft", "type = torque", "conv_factor = 1.35581795",
   "[newton-metre]", "aliases = newton-meter, Nm, N-m", "type = torque", "conv_factor = 1",
   -- speed
   "[feet-per-second]", "aliases = ftps", "type = speed", "conv_factor = 30.48",
   "[mile-per-hour]", "aliases = mph", "type = speed", "conv_factor = 44.704",
   "[knot]", "aliases = kn", "type = speed", "conv_factor = 51.4444444444444",
   "[metre-per-second]", "aliases = meter-per-second, mps", "type = speed", "conv_factor = 100",
   "[kilometre-per-hour]", "aliases = kilometer-per-hour, kmph", "type = speed",
     "conv_factor = 27.7777777777778",
   -- pressure
   "[pound-per-square-inch]", "aliases = psi", "type = pressure", "conv_factor = 6894.757",
   "[millimetre-of-mercury]", "aliases = millimeter-of-mercury, mmHg", "type = pressure",
     "conv_factor = 133.322387415",
   "[bar]", "type = pressure", "conv_factor = 100000",
   "[pascal]", "aliases = Pa, pa", "type = pressure", "conv_factor = 1",
   "[kilopascal]", "aliases = kpa, kPa", "type = pressure", "conv_factor = 1000",
   "[atmosphere]", "aliases = atm", "type = pressure", "conv_factor = 101325",
   -- temperature
   "[celcius]", "aliases = celsius, C", "type = temperature", "conv_factor = 1",
     "zero_point = 273.15",
   -- 5/9 K per degree and 459.67 * 5/9 K, both rounded to 16 digits
   "[fahrenheit]", "aliases = F", "type = temperature", "conv_factor = 0.5555555555555556",
     "zero_point = 255.3722222222222",
   "[kelvin]", "aliases = K", "type = temperature", "conv_factor = 1",
   "[rankine]", "aliases = R, Ra", "type = temperature", "conv_factor = 0.5555555555555556",
   -- fuel economy
   "[litres-per-100-kilometres]", "aliases = liters-per-100-kilometers, L/100km, l/100km",
     "type = fuel economy", "conv_factor = 1",
   "[litres-per-kilometre]", "aliases = liters-per-kilometer, L/km, l/km", "type = fuel economy",
     "conv_factor = 100",
   "[gallons-per-mile]", "aliases = gal/mi, gpm", "type = fuel economy",
     "conv_factor = 235.214583333",
   "[miles-per-gallon]", "aliases = mpg", "type = fuel economy", "conv_factor = 235.214583333",
     "inverse = 1",
   "[kilometres-per-litre]", "aliases = kilometers-per-liter, km/L, km/l", "type = fuel economy",
     "conv_factor = 100", "inverse = 1"]

/-- The units that lines declare, and none at all where loading them fails. -/
def loadOrNone (lines : List String) : Loaded :=
  match load Text.digitLimit lines with
  | .ok loaded => loaded
  | .error _ => ⟨.empty, []⟩

/-- The stock units. Their lines hold no integer of more digits than allowed, so loading them does
not fail. -/
def stock : Loaded :=
  loadOrNone stockLines

end UnitConversion.UnitsFile
