import SlidePress.Picture.Gif
import SlidePress.Picture.Header
import SlidePress.Picture.Icon
import SlidePress.Picture.Jpeg
import SlidePress.Picture.Netpbm
import SlidePress.Picture.OpenExr
import SlidePress.Picture.Radiance
import SlidePress.Picture.Tiff
import SlidePress.Picture.WebP

/-!
The formats of pictures. A format is told by the ending of the name of a file alone; a file in
another format has no dimensions.
-/

namespace SlidePress.Picture

inductive Format where
  | png
  | jpeg
  | gif
  | webP
  | tiff
  | targa
  | texture
  | bitmap
  | icon
  | radiance
  | openExr
  | netpbm
  | farbfeld
  | qoi
  deriving DecidableEq, Repr

namespace Format

/-- The format of files with an ending, in which small and capital letters are the same. -/
def ofEnding? (ending : List Char) : Option Format :=
  match String.ofList (ending.map Char.toLower) with
  | "png" => some .png
  | "jpg" | "jpeg" => some .jpeg
  | "gif" => some .gif
  | "webp" => some .webP
  | "tif" | "tiff" => some .tiff
  | "tga" => some .targa
  | "dds" => some .texture
  | "bmp" => some .bitmap
  | "ico" => some .icon
  | "hdr" => some .radiance
  | "exr" => some .openExr
  | "pbm" | "pam" | "ppm" | "pgm" => some .netpbm
  | "ff" | "farbfeld" => some .farbfeld
  | "qoi" => some .qoi
  | _ => none

def read : Format → Reading Dimensions
  | .png => readPng usualRoom
  | .jpeg => Jpeg.read
  | .gif => Gif.read
  | .webP => WebP.read
  | .tiff => Tiff.read
  | .targa => Targa.read
  | .texture => Texture.read
  | .bitmap => Bitmap.read
  | .icon => Icon.read
  | .radiance => Radiance.read
  | .openExr => OpenExr.read
  | .netpbm => Netpbm.read
  | .farbfeld => Farbfeld.read
  | .qoi => Qoi.read

/-- The dimensions of the picture in a file of a format. A picture that is not kept as bytes is the
one that this library writes. -/
def dimensions? (format : Format) : Content → Option Dimensions
  | .bytes data => format.read.run' data.toList
  | content => if format = .png then Picture.dimensions? content else none

end Format

end SlidePress.Picture
